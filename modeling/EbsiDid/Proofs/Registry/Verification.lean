import EbsiDid.Json.Reader
import EbsiDid.Proofs.Curve.BasePoint
import EbsiDid.Proofs.Registry.Spelling

set_option autoImplicit false

/-!
The id of a verification method can be made again from the public key that its step stores. A stored point is read
back as the same point, and a stored key as the JSON that was written; the use that it has there does not count for
the thumbprint.
-/
namespace EbsiDid

theorem Jwk.default_thumbprint_of_point (type : KeyType) (q : Point) (use : Value) :
    thumbprint (.record (ofPoint type q use).record) defaultDigest = .ok (thumbprintAt .sha256 type q) :=
  thumbprint_of_point type q use rfl

namespace Registry

-- The thumbprint of a stored public key, which spells a point or else, byte by byte, the JSON of a key.
def recomputedId? (publicKey : String) (isSecp256k1 : Bool) : Option String :=
  if isSecp256k1 then do
    let jwk ← (Jwk.ofPublicKey (.text publicKey) (.text KeyType.secp256k1.name) .null).toOption
    (Jwk.thumbprint (.record jwk.record) Jwk.defaultDigest).toOption
  else do
    let bytes ← Hex.decode publicKey
    let text ← Encoding.asciiText? bytes
    let value ← (Json.read text).toOption
    (Jwk.thumbprint value Jwk.defaultDigest).toOption

theorem point_recomputed {q : Point} (on : Curve.secp256k1.holds q = true) :
    recomputedId? (textAt .secp256k1 q) true = some (Jwk.thumbprintAt .sha256 .secp256k1 q) := by
  have same := Jwk.default_thumbprint_of_point .secp256k1 q .null
  have spelt : PublicKey.Spells .secp256k1 (some (textAt .secp256k1 q)) q := PublicKey.spelt_uncompressed on
  have jwk := (PublicKey.jwk_by_point .null).spelt q spelt
  rw [PublicKey.given] at jwk
  rw [recomputedId?, if_pos rfl, jwk]
  simp only [Except.toOption, bind, Option.bind, same]

/-! ### Stored keys -/

def storedFields (q : Point) : List (String × String) :=
  [("use", "sig"), ("kty", "EC"), ("crv", "P-256"), ("x", Jwk.coordinateText q.x), ("y", Jwk.coordinateText q.y)]

-- The JSON of a key, as it is stored.
def storedText (q : Point) : String := Json.write Json.indented (.record (Json.texts (("alg", "ES256") :: storedFields q)))

theorem text_at_stored (q : Point) : textAt .secp256r1 q = Hex.encode (Encoding.utf8 (storedText q)) := rfl

theorem stored_plain (q : Point) : Json.PlainFields (("alg", "ES256") :: storedFields q) := by
  have names : ∀ name ∈ ["alg", "use", "kty", "crv", "x", "y"], Json.Plain name := by decide
  have values : ∀ value ∈ ["ES256", "sig", "EC", "P-256"], Json.Plain value := by decide
  intro field member
  simp only [storedFields, List.mem_cons, List.not_mem_nil, or_false] at member
  rcases member with rfl | rfl | rfl | rfl | rfl | rfl
  · exact ⟨names _ (by simp), values _ (by simp)⟩
  · exact ⟨names _ (by simp), values _ (by simp)⟩
  · exact ⟨names _ (by simp), values _ (by simp)⟩
  · exact ⟨names _ (by simp), values _ (by simp)⟩
  · exact ⟨names _ (by simp), Jwk.coordinate_text_plain q.x⟩
  · exact ⟨names _ (by simp), Jwk.coordinate_text_plain q.y⟩

theorem stored_read (q : Point) :
    Json.read (storedText q) = .ok (.record (Jwk.ofPoint .secp256r1 q (.text "sig")).record) :=
  Json.read_written_record Json.readable_indented (stored_plain q)

theorem record_recomputed (q : Point) :
    recomputedId? (textAt .secp256r1 q) false = some (Jwk.thumbprintAt .sha256 .secp256r1 q) := by
  have ascii := Json.ascii_record Json.readable_indented (stored_plain q)
  have same := Jwk.default_thumbprint_of_point .secp256r1 q (.text "sig")
  rw [recomputedId?, if_neg Bool.false_ne_true, text_at_stored, Hex.decode_encode]
  simp only [bind, Option.bind, storedText, Encoding.ascii_text_of_utf8 ascii]
  rw [← storedText, stored_read]
  simp only [Except.toOption, same]

theorem text_at_recomputed {type : KeyType} {q : Point} (on : (Curve.ofType type).holds q = true) :
    recomputedId? (textAt type q) (type == .secp256k1) = some (Jwk.thumbprintAt .sha256 type q) := by
  cases type with
  | secp256k1 => exact point_recomputed on
  | secp256r1 => exact record_recomputed q

-- The JSON of a key starts with a brace, a point with its tag.
theorem stored_not_point (p q : Point) : textAt .secp256r1 p ≠ Hex.encode (Sec1.uncompressed q) := by
  intro same
  have ascii := Json.ascii_record Json.readable_indented (stored_plain p)
  have bytes := Hex.encode_inj ((text_at_stored p).symm.trans same)
  rw [storedText, Encoding.utf8_of_ascii ascii, Json.write_record_chars] at bytes
  cases List.head_eq_of_cons_eq bytes

theorem text_at_point (type : KeyType) (q : Point) :
    (type == .secp256k1) = true ↔ ∃ p, textAt type q = Hex.encode (Sec1.uncompressed p) := by
  cases type with
  | secp256k1 => exact ⟨fun _ => ⟨q, rfl⟩, fun _ => rfl⟩
  | secp256r1 =>
      constructor
      · intro same
        cases same
      · rintro ⟨p, same⟩
        exact absurd same (stored_not_point q p)

end Registry

namespace WriteStep

def recomputedId? (step : WriteStep) : Option String :=
  match step.member "publicKey", step.member "isSecp256k1" with
  | .text publicKey, .bool isSecp256k1 => Registry.recomputedId? publicKey isSecp256k1
  | _, _ => none

-- What a step says of its method agrees with the public key that it stores.
structure Verifiable (step : WriteStep) (id : String) : Prop where
  methodId : step.member "vMethodId" = .text id
  recomputed : step.recomputedId? = some id
  kind : step.member "isSecp256k1" = .bool true ↔ ∃ q, Curve.secp256k1.holds q = true ∧
    step.member "publicKey" = .text (Hex.encode (Sec1.uncompressed q)) ∧ (Hex.encode (Sec1.uncompressed q)).length = 130

-- The relationship steps of a key, whichever controller of Ethereum's curve they are sent by.
def GrantedAs (key : KeyDescriptor) (id : String) : Prop :=
  ∀ (did : Value) (sender : KeyDescriptor) (q : Point) (purpose : Purpose) (notBefore notAfter : Value),
    sender.type = .secp256k1 → PublicKey.load sender.publicKeyHex sender.type = .ok q →
    ∃ step, addRelationship did sender key purpose notBefore notAfter = .ok step ∧
      addRelationshipNamed did sender key (.text purpose.name) notBefore notAfter = .ok step ∧
      step.member "vMethodId" = .text id

theorem point_kind {type : KeyType} {q : Point} (on : (Curve.ofType type).holds q = true) :
    (type == .secp256k1) = true ↔ ∃ p, Curve.secp256k1.holds p = true ∧
      Value.text (Registry.textAt type q) = .text (Hex.encode (Sec1.uncompressed p)) ∧
        (Hex.encode (Sec1.uncompressed p)).length = 130 := by
  constructor
  · intro ethereum
    cases type with
    | secp256k1 =>
        refine ⟨q, on, rfl, ?_⟩
        rw [Hex.encode_length, Sec1.uncompressed_length]
    | secp256r1 => cases ethereum
  · rintro ⟨p, _, same, _⟩
    exact (Registry.text_at_point type q).mpr ⟨p, Value.text.inj same⟩

theorem verifiable_of_point {step : WriteStep} {type : KeyType} {q : Point} (on : (Curve.ofType type).holds q = true)
    (methodId : step.member "vMethodId" = .text (Jwk.thumbprintAt .sha256 type q))
    (kind : step.member "isSecp256k1" = .bool (type == .secp256k1))
    (publicKey : step.member "publicKey" = .text (Registry.textAt type q)) :
    step.Verifiable (Jwk.thumbprintAt .sha256 type q) := by
  refine ⟨methodId, ?_, ?_⟩
  · rw [recomputedId?, publicKey, kind]
    exact Registry.text_at_recomputed on
  · rw [kind, publicKey, Value.bool.injEq]
    exact point_kind on

theorem granted_as_point {key : KeyDescriptor} {r : Point} (loads : PublicKey.load key.publicKeyHex key.type = .ok r) :
    GrantedAs key (Jwk.thumbprintAt .sha256 key.type r) := by
  intro did sender q purpose notBefore notAfter typed sends
  rw [typed] at sends
  have made := add_relationship_at did purpose notBefore notAfter sends loads
  exact ⟨_, made, (add_relationship_named did sender key purpose notBefore notAfter).trans made, rfl⟩

-- The ids of the methods that are inserted and added, for every controller of Ethereum's curve and every key that
-- loads.
theorem method_ids_verifiable {controller key : KeyDescriptor} {q r : Point} (typed : controller.type = .secp256k1)
    (sends : PublicKey.load controller.publicKeyHex controller.type = .ok q)
    (loads : PublicKey.load key.publicKeyHex key.type = .ok r) (did : Value) :
    (∀ notBefore notAfter baseDocument, ∃ step id,
      insertDocument did controller notBefore notAfter baseDocument = .ok step ∧ step.Verifiable id ∧ GrantedAs controller id) ∧
    ∃ step id, addMethod did controller key = .ok step ∧ step.Verifiable id ∧ GrantedAs key id := by
  have ethereum : PublicKey.load controller.publicKeyHex .secp256k1 = .ok q := by
    rw [← typed]
    exact sends
  constructor
  · intro notBefore notAfter baseDocument
    let step := documentAt did controller.type notBefore notAfter baseDocument q q
    have kind : step.member "isSecp256k1" = .bool (controller.type == .secp256k1) := by
      rw [typed]
      rfl
    have own : step.Verifiable (Jwk.thumbprintAt .sha256 controller.type q) :=
      verifiable_of_point (PublicKey.load_on sends) rfl kind rfl
    exact ⟨step, _, insert_document_at did notBefore notAfter baseDocument ethereum sends, own, granted_as_point sends⟩
  · exact ⟨_, _, add_method_at did ethereum loads, verifiable_of_point (PublicKey.load_on loads) rfl rfl rfl,
      granted_as_point loads⟩

theorem method_ids_verifiable_base :
    let key (type : KeyType) : KeyDescriptor := ⟨.text "kid", type,
      .text (Hex.encode (Sec1.uncompressed (basePoint type))), .null, PurposeSet.defaultFor type, .null⟩
    let controller := key .secp256k1
    let other := key .secp256r1
    let did : Value := .text "did:ebsi:z1"
    (controller.type = .secp256k1 ∧ PublicKey.load other.publicKeyHex other.type = .ok (basePoint .secp256r1)) ∧
    (∀ notBefore notAfter baseDocument, ∃ step id,
      insertDocument did controller notBefore notAfter baseDocument = .ok step ∧ step.Verifiable id ∧ GrantedAs controller id) ∧
    ∃ step id, addMethod did controller other = .ok step ∧ step.Verifiable id ∧ GrantedAs other id := by
  intro key controller other did
  have sends : PublicKey.load controller.publicKeyHex controller.type = .ok (basePoint .secp256k1) :=
    load_uncompressed (base_point_holds .secp256k1)
  have loads : PublicKey.load other.publicKeyHex other.type = .ok (basePoint .secp256r1) :=
    load_uncompressed (base_point_holds .secp256r1)
  exact ⟨⟨rfl, loads⟩, method_ids_verifiable rfl sends loads did⟩

end WriteStep
end EbsiDid
