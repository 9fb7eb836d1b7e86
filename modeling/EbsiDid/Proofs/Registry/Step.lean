import EbsiDid.Proofs.Key.Thumbprint
import EbsiDid.Proofs.Ledger.Session

set_option autoImplicit false

/-!
The steps that are there once the keys have loaded, and what the calls that build them carry.
-/
namespace EbsiDid

namespace RpcCall

-- A member of the one record that a call of a session carries.
def member (name : String) (c : RpcCall) : Value :=
  match c.params with
  | .list [.record fields] => Record.get name fields
  | _ => .null

end RpcCall

namespace WriteStep

def member (name : String) (step : WriteStep) : Value :=
  match step.params with
  | .record fields => Record.get name fields
  | _ => .null

theorem member_build (name : String) (terms : SessionTerms) (id : Value) (step : WriteStep) :
    (LedgerSession.buildCall terms id step).member name = step.member name := by
  obtain ⟨method, params⟩ := step
  cases params <;> rfl

-- The step is sent from an address, and is about one verification method of a DID.
structure Concerns (step : WriteStep) (sender : String) (did : Value) (methodId : String) : Prop where
  sender : step.member "from" = .text sender
  did : step.member "did" = did
  methodId : step.member "vMethodId" = .text methodId

section Loaded

variable {controller key : KeyDescriptor} {sender methodId text : String}

theorem insert_document_of_parts (did notBefore notAfter baseDocument : Value)
    (address : controller.address = .ok sender) (method : controller.methodId = .ok methodId)
    (stored : controller.registryText = .ok text) :
    ∃ step, insertDocument did controller notBefore notAfter baseDocument = .ok step ∧
      step.method = .insertDidDocument ∧ step.Concerns sender did methodId ∧
      step.member "notBefore" = notBefore ∧ step.member "notAfter" = notAfter := by
  simp only [insertDocument, address, method, stored, bind, Except.bind]
  exact ⟨_, rfl, rfl, ⟨rfl, rfl, rfl⟩, rfl, rfl⟩

theorem add_method_of_parts (did : Value) (address : controller.address = .ok sender)
    (method : key.methodId = .ok methodId) (stored : key.registryText = .ok text) :
    ∃ step, addMethod did controller key = .ok step ∧ step.method = .addVerificationMethod ∧
      step.Concerns sender did methodId ∧ step.member "name" = .null := by
  simp only [addMethod, address, method, stored, bind, Except.bind]
  exact ⟨_, rfl, rfl, ⟨rfl, rfl, rfl⟩, rfl⟩

theorem add_relationship_of_parts (did : Value) (purpose : Purpose) (notBefore notAfter : Value)
    (address : controller.address = .ok sender) (method : key.methodId = .ok methodId) :
    addRelationship did controller key purpose notBefore notAfter =
      .ok (relationship sender did methodId purpose notBefore notAfter) := by
  simp only [addRelationship, address, method, bind, Except.bind]
  rfl

theorem relationship_concerns (sender : String) (did : Value) (methodId : String) (purpose : Purpose)
    (notBefore notAfter : Value) :
    (relationship sender did methodId purpose notBefore notAfter).Concerns sender did methodId := ⟨rfl, rfl, rfl⟩

-- Whichever of the two keys fails to load, there is no step.
theorem add_method_unloaded (did : Value) {controller key : KeyDescriptor}
    (unloaded : ¬ ((∃ q, PublicKey.load controller.publicKeyHex .secp256k1 = .ok q) ∧
      ∃ q, PublicKey.load key.publicKeyHex key.type = .ok q)) :
    ∃ e, addMethod did controller key = .error e := by
  cases sending : PublicKey.load controller.publicKeyHex .secp256k1 with
  | error e =>
      rw [addMethod, KeyDescriptor.address_of_unloaded sending]
      exact ⟨e, rfl⟩
  | ok q =>
      obtain ⟨sender, address⟩ := KeyDescriptor.address_total sending
      cases loading : PublicKey.load key.publicKeyHex key.type with
      | error e =>
          rw [addMethod, address, KeyDescriptor.method_id_of_unloaded loading]
          exact ⟨e, rfl⟩
      | ok other => exact absurd ⟨⟨q, sending⟩, other, loading⟩ unloaded

end Loaded

end WriteStep
end EbsiDid
