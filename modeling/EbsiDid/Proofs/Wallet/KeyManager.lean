import EbsiDid.Proofs.Curve.BasePoint
import EbsiDid.Proofs.Json.Entries
import EbsiDid.Wallet.KeyManager

set_option autoImplicit false

/-!
What a key manager holds after an import. An import takes the place of whatever was held under a kid
that is alike to its own, and leaves everything else where it is.
-/
namespace EbsiDid.KeyManager

-- A descriptor is found under its own kid, and the text of its private key with it.
structure Holds (m : KeyManager) (k : KeyDescriptor) (text : String) : Prop where
  scalar : k.kid.hashable = true
  descriptor : m.keys.get? k.kid = some k
  privateKey : m.privateKeys.get? k.kid = some text

-- The descriptor that is stored for key material, with the text of the private key.
structure Derives (key : ImportableKey) (k : KeyDescriptor) (text : String) : Prop where
  material : ∃ given, key.privateKeyHex = .text given ∧ text = Hex.stripMark given
  descriptor : ∃ publicKey, publicKeyOf? text key.type = some publicKey ∧ k = describe key publicKey
  scalar : k.kid.hashable = true

theorem import_key_derived {key : ImportableKey} {k : KeyDescriptor} {text : String} (derives : Derives key k text)
    (m : KeyManager) : m.importKey key = (⟨.ok k, [importedLine k]⟩, m.store text k) := by
  obtain ⟨given, material, rfl⟩ := derives.material
  obtain ⟨publicKey, derived, rfl⟩ := derives.descriptor
  simp only [importKey, material, derived, if_pos derives.scalar]

theorem import_key_underived {key : ImportableKey} (underived : ¬ ∃ k text, Derives key k text) :
    ∃ e, ∀ m : KeyManager, m.importKey key = (.silent (.error e), m) := by
  cases material : key.privateKeyHex with
  | text given =>
      cases derived : publicKeyOf? (Hex.stripMark given) key.type with
      | none =>
          refine ⟨.privateKeyInvalid key.type, fun m => ?_⟩
          simp only [importKey, material, derived]
      | some publicKey =>
          by_cases scalar : (describe key publicKey).kid.hashable = true
          · exact absurd ⟨_, _, ⟨⟨given, material, rfl⟩, ⟨publicKey, derived, rfl⟩, scalar⟩⟩ underived
          · refine ⟨.wrongType, fun m => ?_⟩
            simp only [importKey, material, derived, if_neg scalar]
  | _ =>
      refine ⟨.missingAttribute, fun m => ?_⟩
      simp only [importKey, material]

-- The private key one, however it is spelled, makes a descriptor with the base point.
theorem derives_unit {given kid : String} (named : kid ≠ "") {type : KeyType}
    (unit : scalar? (Hex.stripMark given) type = some 1) (kms : Value) (purposes : PurposeSet) (isController : Value) :
    Derives ⟨kms, type, .text given, .text kid, purposes, isController⟩
      ⟨.text kid, type, .text (Hex.encode (Sec1.compressed (basePoint type))), kms, purposes, isController⟩
      (Hex.stripMark given) := by
  have handle : (Value.text kid).orElse (.text (Hex.encode (Sec1.compressed (basePoint type)))) = .text kid :=
    if_pos (decide_eq_true named)
  refine ⟨⟨given, rfl, rfl⟩, ⟨Hex.encode (Sec1.compressed (basePoint type)), ?_, ?_⟩, rfl⟩
  · simp only [publicKeyOf?, unit, Option.bind_eq_bind, Option.bind_some, of_scalar_one]
    rfl
  · rw [describe, handle]

section Stores

variable {m : KeyManager} {k other : KeyDescriptor} {text otherText : String}

theorem holds_stored (scalar : k.kid.hashable = true) : (m.store text k).Holds k text :=
  ⟨scalar, Entries.get_put_same scalar k m.keys, Entries.get_put_same scalar text m.privateKeys⟩

theorem holds_store_apart (held : m.Holds k text) (scalar : other.kid.hashable = true)
    (apart : other.kid.alike k.kid = false) : (m.store otherText other).Holds k text := by
  refine ⟨held.scalar, ?_, ?_⟩
  · rw [← held.descriptor]
    exact Entries.get_put_other scalar held.scalar apart other m.keys
  · rw [← held.privateKey]
    exact Entries.get_put_other scalar held.scalar apart otherText m.privateKeys

theorem holds_unchanged {after : KeyManager} (held : m.Holds k text) (keys : after.keys = m.keys)
    (privateKeys : after.privateKeys = m.privateKeys) : after.Holds k text := by
  refine ⟨held.scalar, ?_, ?_⟩
  · rw [keys]
    exact held.descriptor
  · rw [privateKeys]
    exact held.privateKey

theorem get_key_held (held : m.Holds k text) : m.getKey k.kid = .ok k := by
  rw [getKey, if_pos held.scalar, held.descriptor]

-- Another key that is stored under the same kid is what is found there.
theorem get_key_alike {kid : Value} (held : m.Holds k text) (scalar : kid.hashable = true)
    (same : k.kid.alike kid = true) : m.getKey kid = .ok k := by
  rw [getKey, if_pos scalar, Entries.get_alike held.scalar scalar same, held.descriptor]

theorem sign_held (held : m.Holds k text) (type : k.type = .secp256k1) (transaction : Value) :
    (m.sign k.kid transaction).1 = signWith text transaction := by
  rw [sign, if_pos held.scalar, held.descriptor, held.privateKey]
  simp only [type]

theorem sign_alike {kid : Value} (held : m.Holds k text) (scalar : kid.hashable = true) (same : k.kid.alike kid = true)
    (type : k.type = .secp256r1) (transaction : Value) :
    (m.sign kid transaction).1 = .error (.signerWrongType kid.display .secp256r1) := by
  rw [sign, if_pos scalar, Entries.get_alike held.scalar scalar same, held.descriptor,
    Entries.get_alike held.scalar scalar same, held.privateKey]
  simp only [type]

end Stores

end EbsiDid.KeyManager
