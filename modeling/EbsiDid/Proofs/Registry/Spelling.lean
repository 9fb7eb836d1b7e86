import EbsiDid.Proofs.Key.Loading
import EbsiDid.Proofs.Registry.Step

set_option autoImplicit false

/-!
Public keys by their points: every spelling of a point has the same JSON Web Key, the same thumbprint, the same form
in the registry, the same address, and is named in the same steps.
-/
namespace EbsiDid

namespace WriteStep

-- The steps that there are for keys that have loaded as points.
def documentAt (did : Value) (type : KeyType) (notBefore notAfter baseDocument : Value) (sender own : Point) : WriteStep :=
  ⟨.insertDidDocument,
    .record [("from", .text (Address.text (Address.ofPoint sender))), ("did", did),
      ("baseDocument", baseDocument.orElse (.text Registry.baseContextDocument)),
      ("vMethodId", .text (Jwk.thumbprintAt .sha256 type own)), ("isSecp256k1", .bool true),
      ("publicKey", .text (Registry.textAt type own)), ("notBefore", notBefore), ("notAfter", notAfter)]⟩

def methodAt (did : Value) (type : KeyType) (sender own : Point) : WriteStep :=
  ⟨.addVerificationMethod,
    .record [("from", .text (Address.text (Address.ofPoint sender))), ("did", did),
      ("isSecp256k1", .bool (type == .secp256k1)), ("vMethodId", .text (Jwk.thumbprintAt .sha256 type own)),
      ("publicKey", .text (Registry.textAt type own))]⟩

def relationshipAt (did : Value) (type : KeyType) (purpose : Purpose) (notBefore notAfter : Value) (sender own : Point) :
    WriteStep :=
  relationship (Address.text (Address.ofPoint sender)) did (Jwk.thumbprintAt .sha256 type own) purpose notBefore notAfter

section Loaded

variable {controller key : KeyDescriptor} {q r : Point}

theorem insert_document_at (did notBefore notAfter baseDocument : Value)
    (sends : PublicKey.load controller.publicKeyHex .secp256k1 = .ok q)
    (loads : PublicKey.load controller.publicKeyHex controller.type = .ok r) :
    insertDocument did controller notBefore notAfter baseDocument =
      .ok (documentAt did controller.type notBefore notAfter baseDocument q r) := by
  rw [insertDocument, KeyDescriptor.address_at sends, KeyDescriptor.method_id_at loads, KeyDescriptor.registry_text_at loads]
  rfl

theorem add_method_at (did : Value) (sends : PublicKey.load controller.publicKeyHex .secp256k1 = .ok q)
    (loads : PublicKey.load key.publicKeyHex key.type = .ok r) :
    addMethod did controller key = .ok (methodAt did key.type q r) := by
  rw [addMethod, KeyDescriptor.address_at sends, KeyDescriptor.method_id_at loads, KeyDescriptor.registry_text_at loads]
  rfl

theorem add_relationship_at (did : Value) (purpose : Purpose) (notBefore notAfter : Value)
    (sends : PublicKey.load controller.publicKeyHex .secp256k1 = .ok q)
    (loads : PublicKey.load key.publicKeyHex key.type = .ok r) :
    addRelationship did controller key purpose notBefore notAfter =
      .ok (relationshipAt did key.type purpose notBefore notAfter q r) :=
  add_relationship_of_parts did purpose notBefore notAfter (KeyDescriptor.address_at sends) (KeyDescriptor.method_id_at loads)

end Loaded

theorem add_relationship_named (did : Value) (controller key : KeyDescriptor) (purpose : Purpose) (notBefore notAfter : Value) :
    addRelationshipNamed did controller key (.text purpose.name) notBefore notAfter =
      addRelationship did controller key purpose notBefore notAfter := by
  have known : Purpose.ofValue? (.text purpose.name) = some purpose := Purpose.ofName?_name purpose
  simp only [addRelationshipNamed, addRelationship, known]

end WriteStep

namespace PublicKey

variable {type : KeyType} {key owner : Option String}

theorem jwk_by_point (use : Value) :
    ByPoint type key (fun q => Jwk.ofPoint type q use) (Jwk.ofPublicKey (given key) (.text type.name) use) := by
  apply by_point_of_load
  · intro q loaded
    rw [Jwk.ofPublicKey, KeyType.ofValue, KeyType.ofName?_name]
    simp only [bind, Except.bind, loaded]
    rfl
  · intro e failed
    rw [Jwk.ofPublicKey, KeyType.ofValue, KeyType.ofName?_name]
    simp only [bind, Except.bind, failed]

theorem thumbprint_by_point {digest : Value} {algorithm : Jwk.Digest} (known : Jwk.Digest.ofValue digest = .ok algorithm) :
    ByPoint type key (Jwk.thumbprintAt algorithm type) (Jwk.thumbprintOfKey (given key) (.text type.name) digest) := by
  have jwk : ByPoint type key _ (Jwk.ofPublicKey (given key) (.text type.name) .null) := jwk_by_point .null
  constructor
  · intro q spelt
    rw [Jwk.thumbprintOfKey, jwk.spelt q spelt]
    exact Jwk.thumbprint_of_point type q .null known
  · intro unspelt
    obtain ⟨e, failed, kind⟩ := jwk.unspelt unspelt
    refine ⟨e, ?_, kind⟩
    rw [Jwk.thumbprintOfKey, failed]
    rfl

theorem unknown_digest {name : String} {e : Error} (unknown : Jwk.Digest.ofValue (.text name) = .error e) :
    e.kind = .validation := by
  unfold Jwk.Digest.ofValue at unknown
  split at unknown
  · cases unknown
  · cases unknown
  · cases unknown
    rfl

theorem thumbprint_error {name : String} {e : Error}
    (failed : Jwk.thumbprintOfKey (given key) (.text type.name) (.text name) = .error e) : e.kind = .validation := by
  cases known : Jwk.Digest.ofValue (.text name) with
  | ok algorithm => exact by_point_error (thumbprint_by_point known) failed
  | error unknown =>
      have jwk : ByPoint type key _ (Jwk.ofPublicKey (given key) (.text type.name) .null) := jwk_by_point .null
      obtain ⟨q, made⟩ | ⟨refused, error, kind⟩ := by_point_cases jwk
      · have members : Jwk.membersOf (Jwk.ofPoint type q .null).record = .ok ["crv", "kty", "x", "y"] := rfl
        rw [Jwk.thumbprintOfKey, made] at failed
        simp only [bind, Except.bind, Jwk.thumbprintOf, members, known] at failed
        cases failed
        exact unknown_digest known
      · rw [Jwk.thumbprintOfKey, error] at failed
        cases failed
        exact kind

theorem registry_by_point : ByPoint type key (Registry.textAt type) (Registry.publicKeyText (given key) type) := by
  apply by_point_of_load
  · intro q loaded
    exact Registry.public_key_text_at loaded
  · intro e failed
    cases type with
    | secp256k1 =>
        simp only [Registry.publicKeyText, PublicKey.uncompressed, bind, Except.bind, failed]
        rfl
    | secp256r1 => simp only [Registry.publicKeyText, bind, Except.bind, failed]

theorem uncompressed_by_point : ByPoint type key Sec1.uncompressed (PublicKey.uncompressed (given key) type) := by
  apply by_point_of_load
  · intro q loaded
    simp only [PublicKey.uncompressed, bind, Except.bind, loaded]
    rfl
  · intro e failed
    simp only [PublicKey.uncompressed, bind, Except.bind, failed]

theorem address_by_point :
    ByPoint .secp256k1 key (fun q => Address.text (Address.ofPoint q)) (Address.ofPublicKey (given key)) := by
  apply by_point_of_load
  · intro q loaded
    simp only [Address.ofPublicKey, bind, Except.bind, loaded]
    rfl
  · intro e failed
    simp only [Address.ofPublicKey, bind, Except.bind, failed]

-- One key, and what is computed from it alone.
structure KeyByPoint (type : KeyType) (key : Option String) : Prop where
  loads : ∀ q, load (given key) type = .ok q ↔ Spells type key q
  refuses : (∀ q, ¬ Spells type key q) → ∃ e, load (given key) type = .error e ∧ e.kind = .validation
  fits : ∀ q, Spells type key q → ∀ n ∈ [q.x, q.y], n < 256 ^ 32 ∧ Encoding.toNat (Sec1.coordinate n) = n
  jwk : ∀ use, ByPoint type key (fun q => Jwk.ofPoint type q use) (Jwk.ofPublicKey (given key) (.text type.name) use)
  thumbprint : ∀ digest algorithm, Jwk.Digest.ofValue digest = .ok algorithm →
    ByPoint type key (Jwk.thumbprintAt algorithm type) (Jwk.thumbprintOfKey (given key) (.text type.name) digest)
  otherDigest : ∀ name e, Jwk.thumbprintOfKey (given key) (.text type.name) (.text name) = .error e → e.kind = .validation
  registry : ByPoint type key (Registry.textAt type) (Registry.publicKeyText (given key) type)
  uncompressed : ByPoint type key Sec1.uncompressed (PublicKey.uncompressed (given key) type)
  address : ByPoint .secp256k1 key (fun q => Address.text (Address.ofPoint q)) (Address.ofPublicKey (given key))

end PublicKey

-- The key with another text of its public key.
def KeyDescriptor.handed (k : KeyDescriptor) (key : Option String) : KeyDescriptor :=
  { k with publicKeyHex := PublicKey.given key }

namespace WriteStep

-- The steps of a controller and a key, whatever else their descriptors say.
structure StepsByPoint (owner key : Option String) : Prop where
  document : ∀ did (controller : KeyDescriptor) notBefore notAfter baseDocument,
    PublicKey.ByPoints .secp256k1 owner controller.type owner
      (documentAt did controller.type notBefore notAfter baseDocument)
      (insertDocument did (controller.handed owner) notBefore notAfter baseDocument)
  method : ∀ did (controller k : KeyDescriptor),
    PublicKey.ByPoints .secp256k1 owner k.type key (methodAt did k.type)
      (addMethod did (controller.handed owner) (k.handed key))
  relationship : ∀ did (controller k : KeyDescriptor) purpose notBefore notAfter,
    PublicKey.ByPoints .secp256k1 owner k.type key (relationshipAt did k.type purpose notBefore notAfter)
      (addRelationship did (controller.handed owner) (k.handed key) purpose notBefore notAfter)
  named : ∀ did (controller k : KeyDescriptor) (purpose : Purpose) notBefore notAfter,
    addRelationshipNamed did controller k (.text purpose.name) notBefore notAfter =
      addRelationship did controller k purpose notBefore notAfter

section Handed

variable {owner key : Option String} {controller k : KeyDescriptor}

-- Every step asks for the controller's address first and for the key's method next. It is there if both are.
theorem by_points_of_parts {more : String → String → Except Error WriteStep} {make : Point → Point → WriteStep}
    (made : ∀ q r, PublicKey.load (controller.handed owner).publicKeyHex .secp256k1 = .ok q →
      PublicKey.load (k.handed key).publicKeyHex (k.handed key).type = .ok r →
      (do let sender ← (controller.handed owner).address
          let id ← (k.handed key).methodId
          more sender id) = .ok (make q r)) :
    PublicKey.ByPoints .secp256k1 owner k.type key make (do
      let sender ← (controller.handed owner).address
      let id ← (k.handed key).methodId
      more sender id) := by
  apply PublicKey.by_points_of_load
  · exact made
  · intro e failed
    rw [KeyDescriptor.address_of_unloaded failed]
    rfl
  · intro q e sends failed
    rw [KeyDescriptor.address_at sends, KeyDescriptor.method_id_of_unloaded failed]
    rfl

theorem insert_document_by_points (did notBefore notAfter baseDocument : Value) :
    PublicKey.ByPoints .secp256k1 owner controller.type owner
      (documentAt did controller.type notBefore notAfter baseDocument)
      (insertDocument did (controller.handed owner) notBefore notAfter baseDocument) :=
  by_points_of_parts fun _ _ => insert_document_at did notBefore notAfter baseDocument

theorem add_method_by_points (did : Value) :
    PublicKey.ByPoints .secp256k1 owner k.type key (methodAt did k.type)
      (addMethod did (controller.handed owner) (k.handed key)) :=
  by_points_of_parts fun _ _ => add_method_at did

theorem add_relationship_by_points (did : Value) (purpose : Purpose) (notBefore notAfter : Value) :
    PublicKey.ByPoints .secp256k1 owner k.type key (relationshipAt did k.type purpose notBefore notAfter)
      (addRelationship did (controller.handed owner) (k.handed key) purpose notBefore notAfter) :=
  by_points_of_parts fun _ _ => add_relationship_at did purpose notBefore notAfter

end Handed

end WriteStep

-- A key text loads as a point exactly when it spells it, and counts for that point only, in everything that is
-- computed from it and in every step.
theorem public_keys_by_point (type : KeyType) (key owner : Option String) :
    PublicKey.KeyByPoint type key ∧ WriteStep.StepsByPoint owner key := by
  constructor
  · exact {
      loads := fun _ => PublicKey.load_iff
      refuses := PublicKey.load_refused
      fits := fun _ => PublicKey.spelt_fits
      jwk := PublicKey.jwk_by_point
      thumbprint := fun _ _ => PublicKey.thumbprint_by_point
      otherDigest := fun _ _ => PublicKey.thumbprint_error
      registry := PublicKey.registry_by_point
      uncompressed := PublicKey.uncompressed_by_point
      address := PublicKey.address_by_point }
  · exact {
      document := fun did _ => WriteStep.insert_document_by_points did
      method := fun did _ _ => WriteStep.add_method_by_points did
      relationship := fun did _ _ => WriteStep.add_relationship_by_points did
      named := WriteStep.add_relationship_named }

end EbsiDid
