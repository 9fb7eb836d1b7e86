import EbsiDid.Proofs.Encoding.Base64
import EbsiDid.Proofs.Json.Reading
import EbsiDid.Proofs.Json.Scalar
import EbsiDid.Registry.Step

set_option autoImplicit false

/-!
What is computed from a public key once it has loaded: its verification method id, its form in the
registry and, on the curve of Ethereum, its address. None of these can fail then.
-/
namespace EbsiDid

namespace Jwk

theorem coordinate_text_plain (n : Nat) : Json.Plain (coordinateText n) := by
  have all : ∀ k : Fin 64, Json.plainChar (Base64.url.char k.val) = true := by decide
  rw [Json.Plain, coordinateText, Base64.encode, String.toList_ofList]
  exact Base64.encoded_in_alphabet all _

theorem coordinate_text_clean (n : Nat) : Text.hasSurrogate (coordinateText n) = false :=
  Text.has_surrogate_false_of_scalars (Text.scalars_ascii (Json.plain_ascii (coordinate_text_plain n)))

theorem coordinate_text_length (n : Nat) : (coordinateText n).length = 43 := by
  have length : (Sec1.coordinate n).length = 32 := Encoding.bigEndian_length 32 n
  rw [coordinateText, Base64.encode_length, length]

theorem coordinate_text_ne_empty (n : Nat) : coordinateText n ≠ "" := by
  intro empty
  have length := coordinate_text_length n
  rw [empty] at length
  cases length

theorem crv_clean (type : KeyType) : type.crv ≠ "" ∧ Text.hasSurrogate type.crv = false := by
  cases type <;> decide

theorem components_cons {jwk : Record} {member value : String} {rest : List String} {more : List (String × String)}
    (found : jwk.get member = .text value) (full : value ≠ "") (others : components jwk rest = .ok more) :
    components jwk (member :: rest) = .ok ((member, value) :: more) := by
  rw [components, found]
  simp only [if_neg full, others]
  rfl

-- The members of a point's key that its thumbprint takes.
def thumbprintParts (type : KeyType) (q : Point) : List (String × String) :=
  [("crv", type.crv), ("kty", "EC"), ("x", coordinateText q.x), ("y", coordinateText q.y)]

def thumbprintAt (algorithm : Digest) (type : KeyType) (q : Point) : String :=
  Base64.encode Base64.url (algorithm.apply (Encoding.utf8 (canonicalText (thumbprintParts type q))))

-- The use of a key, where it is given, stands before these members and hides none of them.
theorem record_of_point (type : KeyType) (q : Point) (use : Value) :
    let jwk := (ofPoint type q use).record
    jwk.get "crv" = .text type.crv ∧ jwk.get "kty" = .text "EC" ∧ jwk.get "x" = .text (coordinateText q.x) ∧
      jwk.get "y" = .text (coordinateText q.y) := by
  cases used : use.truthy with
  | false => simp [record, ofPoint, used, Record.get, Record.get?]
  | true => simp [record, ofPoint, used, Record.get, Record.get?]

theorem components_of_point (type : KeyType) (q : Point) (use : Value) :
    components (ofPoint type q use).record ["crv", "kty", "x", "y"] = .ok (thumbprintParts type q) := by
  obtain ⟨crv, kty, x, y⟩ := record_of_point type q use
  have nonempty : "EC" ≠ "" := by decide
  apply components_cons crv (crv_clean type).1
  apply components_cons kty nonempty
  apply components_cons x (coordinate_text_ne_empty q.x)
  exact components_cons y (coordinate_text_ne_empty q.y) rfl

theorem point_parts_clean (type : KeyType) (q : Point) :
    ∀ part ∈ thumbprintParts type q, Text.hasSurrogate part.1 = false ∧ Text.hasSurrogate part.2 = false := by
  have names : Text.hasSurrogate "crv" = false ∧ Text.hasSurrogate "kty" = false ∧ Text.hasSurrogate "x" = false ∧
      Text.hasSurrogate "y" = false ∧ Text.hasSurrogate "EC" = false := by decide
  obtain ⟨crv, kty, x, y, curve⟩ := names
  intro part member
  simp only [thumbprintParts, List.mem_cons, List.not_mem_nil, or_false] at member
  rcases member with rfl | rfl | rfl | rfl
  · exact ⟨crv, (crv_clean type).2⟩
  · exact ⟨kty, curve⟩
  · exact ⟨x, coordinate_text_clean q.x⟩
  · exact ⟨y, coordinate_text_clean q.y⟩

theorem thumbprint_of_parts {jwk : Record} {digest : Value} {members : List String} {algorithm : Digest}
    {parts : List (String × String)} (required : membersOf jwk = .ok members) (known : Digest.ofValue digest = .ok algorithm)
    (made : components jwk members = .ok parts) (clean : Text.hasSurrogate (canonicalText parts) = false) :
    thumbprintOf jwk digest = .ok (Base64.encode Base64.url (algorithm.apply (Encoding.utf8 (canonicalText parts)))) := by
  rw [thumbprintOf, required, known]
  simp only [bind, Except.bind, made, Encoding.utf8?, clean]
  rfl

theorem thumbprint_of_point (type : KeyType) (q : Point) (use : Value) {digest : Value} {algorithm : Digest}
    (known : Digest.ofValue digest = .ok algorithm) :
    thumbprintOf (ofPoint type q use).record digest = .ok (thumbprintAt algorithm type q) := by
  have members : membersOf (ofPoint type q use).record = .ok ["crv", "kty", "x", "y"] := by
    rw [membersOf, (record_of_point type q use).2.1]
    rfl
  have clean := Text.has_surrogate_false_of_scalars (Json.write_record_scalars (point_parts_clean type q))
  exact thumbprint_of_parts members known (components_of_point type q use) clean

end Jwk

namespace Registry

-- The form that a point has in the registry.
def textAt (type : KeyType) (q : Point) : String :=
  match type with
  | .secp256k1 => Hex.encode (Sec1.uncompressed q)
  | .secp256r1 => Hex.encode (Encoding.utf8 (Json.write Json.indented (.record (Jwk.ofPoint type q (.text "sig")).record)))

theorem public_key_text_at {key : Value} {type : KeyType} {q : Point} (loaded : PublicKey.load key type = .ok q) :
    publicKeyText key type = .ok (textAt type q) := by
  cases type with
  | secp256k1 =>
      simp only [publicKeyText, PublicKey.uncompressed, bind, Except.bind, loaded]
      rfl
  | secp256r1 =>
      simp only [publicKeyText, bind, Except.bind, loaded]
      rfl

end Registry

namespace KeyDescriptor

theorem method_id_of_load {k : KeyDescriptor} {q : Point} (loaded : PublicKey.load k.publicKeyHex k.type = .ok q) :
    k.methodId = Jwk.thumbprintOf (Jwk.ofPoint k.type q .null).record Jwk.defaultDigest := by
  have type : KeyType.ofValue (.text k.type.name) = .ok k.type := by
    rw [KeyType.ofValue, KeyType.ofName?_name]
  rw [methodId, Jwk.thumbprintOfKey, Jwk.ofPublicKey, type]
  simp only [bind, Except.bind, loaded]
  rfl

theorem method_id_of_unloaded {k : KeyDescriptor} {e : Error} (failed : PublicKey.load k.publicKeyHex k.type = .error e) :
    k.methodId = .error e := by
  have type : KeyType.ofValue (.text k.type.name) = .ok k.type := by
    rw [KeyType.ofValue, KeyType.ofName?_name]
  rw [methodId, Jwk.thumbprintOfKey, Jwk.ofPublicKey, type]
  simp only [bind, Except.bind, failed]

theorem method_id_at {k : KeyDescriptor} {q : Point} (loaded : PublicKey.load k.publicKeyHex k.type = .ok q) :
    k.methodId = .ok (Jwk.thumbprintAt .sha256 k.type q) := by
  rw [method_id_of_load loaded]
  exact Jwk.thumbprint_of_point k.type q .null rfl

theorem method_id_total {k : KeyDescriptor} {q : Point} (loaded : PublicKey.load k.publicKeyHex k.type = .ok q) :
    ∃ id, k.methodId = .ok id := ⟨_, method_id_at loaded⟩

theorem registry_text_at {k : KeyDescriptor} {q : Point} (loaded : PublicKey.load k.publicKeyHex k.type = .ok q) :
    k.registryText = .ok (Registry.textAt k.type q) := Registry.public_key_text_at loaded

theorem registry_text_total {k : KeyDescriptor} {q : Point}
    (loaded : PublicKey.load k.publicKeyHex k.type = .ok q) : ∃ text, k.registryText = .ok text :=
  ⟨_, registry_text_at loaded⟩

theorem address_at {k : KeyDescriptor} {q : Point} (loaded : PublicKey.load k.publicKeyHex .secp256k1 = .ok q) :
    k.address = .ok (Address.text (Address.ofPoint q)) := by
  simp only [address, Address.ofPublicKey, bind, Except.bind, loaded]
  rfl

theorem address_total {k : KeyDescriptor} {q : Point}
    (loaded : PublicKey.load k.publicKeyHex .secp256k1 = .ok q) : ∃ sender, k.address = .ok sender :=
  ⟨_, address_at loaded⟩

theorem address_of_unloaded {k : KeyDescriptor} {e : Error}
    (failed : PublicKey.load k.publicKeyHex .secp256k1 = .error e) : k.address = .error e := by
  simp only [address, Address.ofPublicKey, bind, Except.bind, failed]

end KeyDescriptor
end EbsiDid
