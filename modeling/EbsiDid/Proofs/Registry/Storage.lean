import EbsiDid.Proofs.Encoding.Base64
import EbsiDid.Proofs.Registry.Verification

set_option autoImplicit false

/-!
What the registry stores for a public key says which point it is, byte for byte: the uncompressed point in hex, or
the hex of the key's JSON with both coordinates in full. Keys are stored alike exactly when their points are the same.
-/
namespace EbsiDid

/-! ### Coordinates -/

-- The text stands for a coordinate in all its 32 bytes, the leading zeros among them.
structure CoordinateText (text : String) (n : Nat) : Prop where
  length : text.length = 43
  letters : ∀ c ∈ text.toList, c.isAlphanum = true ∨ c = '-' ∨ c = '_'
  decoded : ∃ bytes, Base64.decode text = some bytes ∧ bytes.length = 32 ∧ Encoding.toNat bytes = n

theorem coordinate_text_value {text : String} {m n : Nat} (left : CoordinateText text m) (right : CoordinateText text n) :
    m = n := by
  obtain ⟨bytes, decoded, _, rfl⟩ := left.decoded
  obtain ⟨others, same, _, rfl⟩ := right.decoded
  rw [decoded] at same
  rw [Option.some.inj same]

namespace Jwk

theorem coordinate_text {type : KeyType} {n : Nat} (below : n < (Curve.ofType type).p) :
    CoordinateText (coordinateText n) n := by
  have all : ∀ k : Fin 64, (Base64.url.char k.val).isAlphanum = true ∨ Base64.url.char k.val = '-' ∨
      Base64.url.char k.val = '_' := by decide
  refine ⟨coordinate_text_length n, ?_, Sec1.coordinate n, Base64.decode_encode _, Sec1.coordinate_length n,
    Sec1.coordinate_to_nat below⟩
  rw [coordinateText, Base64.encode, String.toList_ofList]
  exact Base64.encoded_in_alphabet all _

theorem point_of_record {type : KeyType} {q r : Point} (here : (Curve.ofType type).holds q = true)
    (there : (Curve.ofType type).holds r = true) (use : Value)
    (same : (ofPoint type q use).record = (ofPoint type r use).record) : q = r := by
  obtain ⟨x, y, _⟩ := Curve.holds_iff.mp here
  obtain ⟨other, another, _⟩ := Curve.holds_iff.mp there
  obtain ⟨_, _, first, second⟩ := record_of_point type q use
  obtain ⟨_, _, third, fourth⟩ := record_of_point type r use
  rw [same, third, Value.text.injEq] at first
  rw [same, fourth, Value.text.injEq] at second
  have equal := coordinate_text_value (coordinate_text x) (first ▸ coordinate_text other)
  have alike := coordinate_text_value (coordinate_text y) (second ▸ coordinate_text another)
  cases q
  cases r
  cases equal
  cases alike
  rfl

end Jwk

namespace Registry

/-! ### The JSON of a key -/

def keyJson (x y : String) : String :=
  "\x7b\n  \"alg\": \"ES256\",\n  \"use\": \"sig\",\n  \"kty\": \"EC\",\n  \"crv\": \"P-256\",\n  \"x\": \"" ++ x ++
    "\",\n  \"y\": \"" ++ y ++ "\"\n\x7d"

-- Character by character; only the texts of the coordinates stay open.
theorem stored_json (q : Point) : storedText q = keyJson (Jwk.coordinateText q.x) (Jwk.coordinateText q.y) := by
  have next : Json.betweenMembers Json.indented = [',', '\n', ' ', ' '] := rfl
  have start : (Json.indented.line 1).toList = ['\n', ' ', ' '] := rfl
  have stop : (Json.indented.line 0).toList = ['\n'] := rfl
  have colon : Json.indented.keySeparator.toList = [':', ' '] := rfl
  obtain ⟨first, later⟩ := List.forall_mem_cons.mp (stored_plain q)
  apply String.toList_inj.mp
  rw [storedText, Json.write_record_chars, Json.member_chars _ first, Json.later_member_chars later, storedFields]
  unfold keyJson
  simp only [String.toList_append, List.flatMap_cons, List.flatMap_nil, next, start, stop, colon]
  simp only [List.cons_append, List.append_assoc, List.nil_append, List.append_nil, String.reduceToList]

/-! ### What is stored -/

-- A point of Ethereum's curve. Its text is a public key in its turn, and is stored as itself.
structure StoredPoint (text : String) (q : Point) : Prop where
  length : text.length = 130
  digits : ∀ c ∈ text.toList, c ∈ "0123456789abcdef".toList
  tag : ∃ rest, text = "04" ++ rest
  loads : PublicKey.load (.text text) .secp256k1 = .ok q
  again : publicKeyText (.text text) .secp256k1 = .ok text

-- A key on the other curve, whose coordinates have the texts `x` and `y`.
structure StoredKey (key type : Value) (text x y : String) (q : Point) : Prop where
  text : text = Hex.encode (Encoding.utf8 (keyJson x y))
  parsed : ∃ jwk, Jwk.ofPublicKey key type (.text "sig") = .ok jwk ∧ Json.read (keyJson x y) = .ok (.record jwk.record)
  first : CoordinateText x q.x
  second : CoordinateText y q.y

def Stored (key name : Value) (type : KeyType) (text : String) (q : Point) : Prop :=
  match type with
  | .secp256k1 => StoredPoint text q
  | .secp256r1 => ∃ x y, StoredKey key name text x y q

theorem stored_point {q : Point} (on : Curve.secp256k1.holds q = true) : StoredPoint (textAt .secp256k1 q) q := by
  have text : textAt .secp256k1 q = Hex.encode (Sec1.uncompressed q) := rfl
  have loads : PublicKey.load (.text (Hex.encode (Sec1.uncompressed q))) .secp256k1 = .ok q := load_uncompressed on
  rw [text]
  refine ⟨?_, Hex.encode_digits _, ⟨_, Hex.encode_tagged _⟩, loads, public_key_text_at loads⟩
  rw [Hex.encode_length, Sec1.uncompressed_length]

section Loaded

variable {key other name : Value} {type : KeyType} {q r : Point} (named : KeyType.ofValue name = .ok type)
  (loaded : PublicKey.load key type = .ok q)

include named loaded

theorem jwk_of_loaded (use : Value) : Jwk.ofPublicKey key name use = .ok (Jwk.ofPoint type q use) := by
  rw [Jwk.ofPublicKey, named]
  simp only [bind, Except.bind, loaded]
  rfl

theorem stored_of_loaded : Stored key name type (textAt type q) q := by
  have on := PublicKey.load_on loaded
  cases type with
  | secp256k1 => exact stored_point on
  | secp256r1 =>
      obtain ⟨x, y, _⟩ := Curve.holds_iff.mp on
      refine ⟨_, _, ?_, ⟨_, jwk_of_loaded named loaded _, ?_⟩, Jwk.coordinate_text x, Jwk.coordinate_text y⟩
      · rw [text_at_stored, stored_json]
      · rw [← stored_json, stored_read]

theorem jwk_same_iff (otherwise : PublicKey.load other type = .ok r) (use : Value) :
    (Jwk.ofPublicKey key name use).map Jwk.record = (Jwk.ofPublicKey other name use).map Jwk.record ↔ q = r := by
  rw [jwk_of_loaded named loaded, jwk_of_loaded named otherwise]
  constructor
  · intro same
    exact Jwk.point_of_record (PublicKey.load_on loaded) (PublicKey.load_on otherwise) use (Except.ok.inj same)
  · rintro rfl
    rfl

end Loaded

-- Each kind of text can be read, and so says which point it is made of.
theorem text_at_inj {type : KeyType} {q r : Point} (here : (Curve.ofType type).holds q = true)
    (there : (Curve.ofType type).holds r = true) (same : textAt type q = textAt type r) : q = r := by
  cases type with
  | secp256k1 =>
      have loads := (stored_point here).loads
      rw [same, (stored_point there).loads] at loads
      exact (Except.ok.inj loads).symm
  | secp256r1 =>
      have ascii (p : Point) : Encoding.Ascii (storedText p).toList := Json.ascii_record Json.readable_indented (stored_plain p)
      rw [text_at_stored, text_at_stored] at same
      have bytes := Hex.encode_inj same
      have texts := congrArg Encoding.asciiText? bytes
      rw [Encoding.ascii_text_of_utf8 (ascii q), Encoding.ascii_text_of_utf8 (ascii r)] at texts
      have read := congrArg Json.read (Option.some.inj texts)
      rw [stored_read, stored_read] at read
      exact Jwk.point_of_record here there (.text "sig") (Value.record.inj (Except.ok.inj read))

theorem text_same_iff {key other : Value} {type : KeyType} {q r : Point} (loaded : PublicKey.load key type = .ok q)
    (otherwise : PublicKey.load other type = .ok r) : publicKeyText key type = publicKeyText other type ↔ q = r := by
  rw [public_key_text_at loaded, public_key_text_at otherwise]
  constructor
  · intro same
    exact text_at_inj (PublicKey.load_on loaded) (PublicKey.load_on otherwise) (Except.ok.inj same)
  · rintro rfl
    rfl

-- A key that loads is stored in full, and two of one type are stored alike when they are one point, and then only.
theorem public_key_faithful {key name : Value} {type : KeyType} {q : Point} (named : KeyType.ofValue name = .ok type)
    (loaded : PublicKey.load key type = .ok q) :
    (∃ text, publicKeyText key type = .ok text ∧ Stored key name type text q ∧
      ∀ k : KeyDescriptor, k.publicKeyHex = key → k.type = type → k.registryText = .ok text) ∧
    ∀ other r, PublicKey.load other type = .ok r →
      (publicKeyText key type = publicKeyText other type ↔ q = r) ∧
      ∀ use, (Jwk.ofPublicKey key name use).map Jwk.record = (Jwk.ofPublicKey other name use).map Jwk.record ↔ q = r := by
  constructor
  · refine ⟨_, public_key_text_at loaded, stored_of_loaded named loaded, ?_⟩
    rintro k rfl rfl
    exact KeyDescriptor.registry_text_at loaded
  · intro other r otherwise
    exact ⟨text_same_iff loaded otherwise, jwk_same_iff named loaded otherwise⟩

-- The point over zero has a coordinate of zero bytes only.
theorem public_key_faithful_over_zero :
    let q : Point := ⟨0, 0x66485c780e2f83d72433bd5d84a06bb6541c2af31dae871728bf856a174f93f4⟩
    let key : Value := .text (Hex.encode (Sec1.uncompressed q))
    let name : Value := .text "SECP256R1"
    (KeyType.ofValue name = .ok .secp256r1 ∧ PublicKey.load key .secp256r1 = .ok q) ∧
    (∃ text, publicKeyText key .secp256r1 = .ok text ∧ Stored key name .secp256r1 text q ∧
      ∀ k : KeyDescriptor, k.publicKeyHex = key → k.type = .secp256r1 → k.registryText = .ok text) ∧
    ∀ other r, PublicKey.load other .secp256r1 = .ok r →
      (publicKeyText key .secp256r1 = publicKeyText other .secp256r1 ↔ q = r) ∧
      ∀ use, (Jwk.ofPublicKey key name use).map Jwk.record = (Jwk.ofPublicKey other name use).map Jwk.record ↔ q = r := by
  intro q key name
  have on : (Curve.ofType .secp256r1).holds q = true := by decide +kernel
  have named : KeyType.ofValue name = .ok .secp256r1 := by rfl
  have loaded : PublicKey.load key .secp256r1 = .ok q := load_uncompressed on
  exact ⟨⟨named, loaded⟩, public_key_faithful named loaded⟩

end Registry
end EbsiDid
