import EbsiDid.Ledger.Desk

set_option autoImplicit false

/-!
What a call reports as a result. An answer counts as one when it is a JSON object that has neither `status`
nor `error`; its `result` member is the value, or null where there is none, whatever the HTTP status.
-/
namespace EbsiDid

-- An object that tells of no failure.
def Unmarked (fields : Record) : Prop := Record.has "status" fields = false ∧ Record.has "error" fields = false

theorem fault_iff_marked (fields : Record) : isFault (.record fields) = false ↔ Unmarked fields := by
  simp [isFault, Unmarked]

namespace Connection

variable {ν : Type}

-- What comes back for a call, if it goes out at all.
def exchanged? (net : Network ν) (c : Connection ν) (k : RpcCall) : Option Exchange :=
  match c.client.mutateUrl k.apiOpts, paramsOf k.params with
  | .ok url, .ok params =>
      some (net.exchange ⟨c.openSession.1, url, RpcClient.bodyOf k params, RpcClient.headersOf k⟩
        c.openSession.2.network).1
  | _, _ => none

def Answers (net : Network ν) (c : Connection ν) (k : RpcCall) (fields : Record) : Prop :=
  ∃ status text, exchanged? net c k = some (.answered status (.text text)) ∧ Json.read text = .ok (.record fields)

def Reports (net : Network ν) (c : Connection ν) (k : RpcCall) (v : Value) : Prop :=
  ∃ fields, Answers net c k fields ∧ Unmarked fields ∧ v = Record.get "result" fields

theorem outcome_result_iff (k : RpcCall) (url : String) (x : Exchange) (id v : Value) :
    (RpcClient.outcomeOf k url x).result = .ok (.result id v) ↔ id = k.rpcId ∧ ∃ status text fields,
      x = .answered status (.text text) ∧ Json.read text = .ok (.record fields) ∧ Unmarked fields ∧
        v = Record.get "result" fields := by
  constructor
  · intro reported
    unfold RpcClient.outcomeOf at reported
    split at reported
    · cases reported
    · rename_i status text
      split at reported
      · cases reported
      · rename_i body read
        split at reported
        · cases reported
        · rename_i sound
          cases body with
          | record fields =>
              cases reported
              refine ⟨rfl, status, text, fields, rfl, read, ?_, rfl⟩
              rw [← fault_iff_marked]
              exact Bool.not_eq_true _ ▸ sound
          | _ => exact absurd rfl sound
    · cases reported
  · rintro ⟨rfl, status, text, fields, rfl, read, unmarked, rfl⟩
    rw [← fault_iff_marked] at unmarked
    simp only [RpcClient.outcomeOf, read, unmarked, if_neg Bool.false_ne_true]
    rfl

theorem call_outcome (net : Network ν) (c : Connection ν) (k : RpcCall) :
    (∃ e, (c.call net k).1.result = .error e ∧ exchanged? net c k = none) ∨
      ∃ url x, exchanged? net c k = some x ∧ (c.call net k).1.result = (RpcClient.outcomeOf k url x).result := by
  unfold call exchanged?
  cases c.client.mutateUrl k.apiOpts with
  | error e => exact .inl ⟨e, rfl, rfl⟩
  | ok url =>
      cases paramsOf k.params with
      | error e => exact .inl ⟨e, rfl, rfl⟩
      | ok params => exact .inr ⟨url, _, rfl, rfl⟩

theorem call_result_iff (net : Network ν) (c : Connection ν) (k : RpcCall) (id v : Value) :
    (c.call net k).1.result = .ok (.result id v) ↔ id = k.rpcId ∧ Reports net c k v := by
  obtain ⟨e, failed, unsent⟩ | ⟨url, x, sent, outcome⟩ := call_outcome net c k
  · constructor
    · intro reported
      cases failed.symm.trans reported
    · rintro ⟨_, fields, ⟨_, _, sent, _⟩, _⟩
      cases unsent.symm.trans sent
  · rw [outcome, outcome_result_iff]
    constructor
    · rintro ⟨same, status, text, fields, rfl, read, unmarked, rfl⟩
      exact ⟨same, fields, ⟨status, text, sent, read⟩, unmarked, rfl⟩
    · rintro ⟨same, fields, ⟨status, text, came, read⟩, unmarked, rfl⟩
      exact ⟨same, status, text, fields, Option.some.inj (sent.symm.trans came), read, unmarked, rfl⟩

end Connection
end EbsiDid
