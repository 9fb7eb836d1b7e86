import EbsiDid.Proofs.Curve.Order
import EbsiDid.Proofs.Key.Loading
import EbsiDid.Proofs.Number.Hexadecimal
import EbsiDid.Proofs.Wallet.History

set_option autoImplicit false

/-!
Which key material a key manager takes. A private key is a number above zero and below the order of its curve; the
public key that is derived from it can always be loaded.
-/
namespace EbsiDid.KeyManager

-- The numbers that are private keys of a type.
def InRange (type : KeyType) (n : Int) : Prop := 0 < n ∧ n < (Curve.ofType type).order

instance (type : KeyType) (n : Int) : Decidable (InRange type n) :=
  inferInstanceAs (Decidable (0 < n ∧ n < (Curve.ofType type).order))

theorem scalar_iff {text : String} {type : KeyType} {k : Nat} :
    scalar? text type = some k ↔ Number.hexadecimal? text = some (k : Int) ∧ InRange type k := by
  simp only [scalar?, Curve.isScalar, bind, pure, Option.bind_eq_some_iff, Option.ite_none_right_eq_some, Option.some.injEq,
    Bool.and_eq_true, decide_eq_true_eq]
  constructor
  · rintro ⟨n, read, ⟨positive, below⟩, rfl⟩
    have whole : (n.toNat : Int) = n := Int.toNat_of_nonneg (Int.le_of_lt positive)
    rw [whole]
    exact ⟨read, positive, below⟩
  · rintro ⟨read, positive, below⟩
    exact ⟨k, read, ⟨positive, below⟩, Int.toNat_natCast k⟩

theorem public_key_of_scalar {text : String} {type : KeyType} {k : Nat} (scalar : scalar? text type = some k) :
    ∃ publicKey, publicKeyOf? text type = some publicKey := by
  obtain ⟨_, positive, below⟩ := scalar_iff.mp scalar
  have belowOrder : k < (Curve.ofType type).order := Int.ofNat_lt.mp below
  obtain ⟨q, multiple⟩ := Curve.of_scalar_total (Int.natCast_pos.mp positive) belowOrder
  refine ⟨Hex.encode (Sec1.compressed q), ?_⟩
  simp only [publicKeyOf?, scalar, multiple, bind, Option.bind, pure]

theorem scalar_of_public_key {text publicKey : String} {type : KeyType} (derived : publicKeyOf? text type = some publicKey) :
    ∃ k, scalar? text type = some k := by
  cases scalar : scalar? text type with
  | none =>
      simp only [publicKeyOf?, scalar, bind, Option.bind] at derived
      cases derived
  | some k => exact ⟨k, rfl⟩

-- What a kid has to be for a key to be stored under it: anything if it does not count, and else what can be a key.
def KidFits (kid : Value) : Prop := kid.truthy = true → kid.hashable = true

theorem described_hashable (key : ImportableKey) (publicKey : String) :
    (describe key publicKey).kid.hashable = true ↔ KidFits key.kid := by
  change (key.kid.orElse (.text publicKey)).hashable = true ↔ (key.kid.truthy = true → key.kid.hashable = true)
  cases given : key.kid.truthy with
  | false => simp [Value.orElse, given, Value.hashable]
  | true => simp [Value.orElse, given]

-- A text that is the number of a private key, and a kid under which it can be stored.
structure Importable (key : ImportableKey) : Prop where
  scalar : ∃ given n, key.privateKeyHex = .text given ∧ Number.hexadecimal? (Hex.stripMark given) = some n ∧
    InRange key.type n
  kid : KidFits key.kid

theorem derives_iff (key : ImportableKey) : (∃ k text, Derives key k text) ↔ Importable key := by
  constructor
  · rintro ⟨k, text, derives⟩
    obtain ⟨given, material, rfl⟩ := derives.material
    obtain ⟨publicKey, derived, rfl⟩ := derives.descriptor
    obtain ⟨k, scalar⟩ := scalar_of_public_key derived
    obtain ⟨read, range⟩ := scalar_iff.mp scalar
    exact ⟨⟨given, k, material, read, range⟩, (described_hashable key publicKey).mp derives.scalar⟩
  · rintro ⟨⟨given, n, material, read, range⟩, fits⟩
    have whole : (n.toNat : Int) = n := Int.toNat_of_nonneg (Int.le_of_lt range.1)
    rw [← whole] at read range
    obtain ⟨publicKey, derived⟩ := public_key_of_scalar (scalar_iff.mpr ⟨read, range⟩)
    exact ⟨_, _, ⟨given, material, rfl⟩, ⟨publicKey, derived, rfl⟩, (described_hashable key publicKey).mpr fits⟩

theorem import_returns_iff (m : KeyManager) (key : ImportableKey) :
    (∃ k, (m.importKey key).1.result = .ok k) ↔ Importable key := by
  constructor
  · rintro ⟨k, returned⟩
    by_cases derives : ∃ k text, Derives key k text
    · exact (derives_iff key).mp derives
    · obtain ⟨e, refused⟩ := import_key_underived derives
      rw [refused m] at returned
      cases returned
  · intro importable
    obtain ⟨k, text, derives⟩ := (derives_iff key).mpr importable
    rw [import_key_derived derives m]
    exact ⟨k, rfl⟩

-- The public key of a descriptor that is stored is one that loads.
theorem derived_loads {key : ImportableKey} {k : KeyDescriptor} {text : String} (derives : Derives key k text) :
    ∃ q, PublicKey.load k.publicKeyHex k.type = .ok q := by
  obtain ⟨n, q, _, _, multiple, publicKey⟩ := derived_of_derives derives
  have among : Sec1.compressed q ∈ PublicKey.forms q := List.mem_cons_self
  have spelt := PublicKey.spelt_encoded (Curve.of_scalar_holds multiple) among
  have loaded := PublicKey.load_iff.mpr spelt
  rw [publicKey]
  exact ⟨q, loaded⟩

section Bytes

variable {key : ImportableKey} {bytes : Bytes}

theorem hexadecimal_bytes {n : Int} (range : InRange key.type n) (bytes : Bytes) :
    Number.hexadecimal? (Hex.stripMark (Hex.encode bytes)) = some n ↔ (Encoding.toNat bytes : Int) = n := by
  rw [Hex.strip_encode]
  cases bytes with
  | nil =>
      have zero : ((Encoding.toNat [] : Nat) : Int) ≠ n := Int.ne_of_lt range.1
      exact ⟨nofun, fun same => absurd same zero⟩
  | cons b rest =>
      rw [Number.hexadecimal_encode (List.cons_ne_nil b rest), Option.some.injEq]

-- Bytes in hexadecimal are taken for a key if they are the number of one.
theorem bytes_importable_iff (material : key.privateKeyHex = .text (Hex.encode bytes)) (fits : KidFits key.kid) :
    Importable key ↔ InRange key.type (Encoding.toNat bytes) := by
  constructor
  · rintro ⟨⟨given, n, other, read, range⟩, _⟩
    rw [material] at other
    cases other
    rw [(hexadecimal_bytes range bytes).mp read]
    exact range
  · intro range
    exact ⟨⟨_, _, material, (hexadecimal_bytes range bytes).mpr rfl, range⟩, fits⟩

theorem import_key_out_of_range (material : key.privateKeyHex = .text (Hex.encode bytes))
    (outside : ¬ InRange key.type (Encoding.toNat bytes)) (m : KeyManager) :
    m.importKey key = (.silent (.error (.privateKeyInvalid key.type)), m) := by
  have underived : publicKeyOf? (Hex.stripMark (Hex.encode bytes)) key.type = none := by
    cases derived : publicKeyOf? (Hex.stripMark (Hex.encode bytes)) key.type with
    | none => rfl
    | some publicKey =>
        obtain ⟨k, scalar⟩ := scalar_of_public_key derived
        obtain ⟨read, range⟩ := scalar_iff.mp scalar
        rw [(hexadecimal_bytes range bytes).mp read] at outside
        exact absurd range outside
  simp only [importKey, material, underived]

end Bytes

end EbsiDid.KeyManager
