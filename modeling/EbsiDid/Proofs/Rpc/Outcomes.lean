import EbsiDid.Proofs.Rpc.Address
import EbsiDid.Proofs.Rpc.Authorization
import EbsiDid.Proofs.Rpc.Reporting

set_option autoImplicit false

/-!
How a call ends. Whatever comes of the exchange, an answer settles the call with a result or a fault under its own id,
and a failure of the exchange with an error of the transport. The time limit is not among these failures.
-/
namespace EbsiDid

/-! ### Calls that go out -/

-- The options are a record or nothing, and there are parameters to go through.
structure RpcCall.WellFormed (k : RpcCall) : Prop where
  options : k.apiOpts = .null ∨ ∃ fields, k.apiOpts = .record fields
  params : ∃ items, k.params.items? = some items

theorem Registry.layer_total {options : Value} (shape : options = .null ∨ ∃ fields, options = .record fields) :
    ∃ fields, layerOf options = .ok fields := by
  rcases shape with rfl | ⟨fields, rfl⟩
  · exact ⟨[], rfl⟩
  · unfold layerOf
    split
    · exact ⟨fields, rfl⟩
    · exact ⟨[], rfl⟩

theorem RpcClient.mutate_url_total (client : RpcClient) {options : Value}
    (shape : options = .null ∨ ∃ fields, options = .record fields) : ∃ url, client.mutateUrl options = .ok url := by
  obtain ⟨fields, given⟩ := Registry.layer_total shape
  rw [mutateUrl, Settings.setting_text, Settings.setting_text, Settings.setting_text, given]
  exact ⟨_, rfl⟩

namespace Connection

variable {ν : Type}

theorem posted_of_well_formed (c : Connection ν) {k : RpcCall} (wellFormed : k.WellFormed) :
    ∃ url params, c.posted k = .ok (url, params) := by
  obtain ⟨url, address⟩ := c.client.mutate_url_total wellFormed.options
  obtain ⟨params, listed⟩ := wellFormed.params
  refine ⟨url, params, ?_⟩
  rw [posted, address, paramsOf, listed]
  rfl

end Connection

/-! ### What comes of an exchange -/

-- An answer with any status and text, a failure of the exchange, or the time limit.
inductive Exchange.Ends : Exchange → Prop
  | answered (status : Value) (text : String) : Ends (.answered status (.text text))
  | failed {e : Error} (failure : e.kind.isExchangeFailure = true) : Ends (.failed e)
  | timedOut {e : Error} (limit : e.kind = .timedOut) : Ends (.failed e)

-- The three ways to settle a call, each under the id or the names of the call. A fault is the body itself, or says what
-- was there in place of one.
inductive RpcCall.Settles (k : RpcCall) (url : String) : Exchange → Except Error RpcOutcome → Prop
  | result {text : String} {fields : Record} (status : Value) (read : Json.read text = .ok (.record fields))
      (unmarked : Unmarked fields) :
      Settles k url (.answered status (.text text)) (.ok (.result k.rpcId (Record.get "result" fields)))
  | fault {text : String} {body : Value} (status : Value) (read : Json.read text = .ok body)
      (marked : ∀ fields, body = .record fields → ¬ Unmarked fields) :
      Settles k url (.answered status (.text text)) (.ok (.fault k.rpcId body))
  | garbled {text : String} {cause : Json.ReadError} (status : Value) (unread : Json.read text = .error cause) :
      Settles k url (.answered status (.text text))
        (.ok (.fault k.rpcId (.record [("status", status), ("title", .text text)])))
  | unreachable {e : Error} (failure : e.kind.isExchangeFailure = true) :
      Settles k url (.failed e) (.error (.unreachable k.method.display url e.kind))

-- What is passed on as it came.
inductive Exchange.Escapes : Exchange → Error → Prop
  | timedOut {e : Error} (limit : e.kind = .timedOut) : Escapes (.failed e) e

namespace RpcClient

theorem outcome_escaped (k : RpcCall) (url : String) {x : Exchange} {e : Error} (escapes : x.Escapes e) :
    (outcomeOf k url x).result = .error e := by
  cases escapes with
  | timedOut limit =>
      simp only [outcomeOf, limit]
      rfl

theorem record_of_sound {body : Value} (sound : ¬ isFault body = true) : ∃ fields, body = .record fields := by
  cases body with
  | record fields => exact ⟨fields, rfl⟩
  | _ => exact absurd rfl sound

theorem outcome_settled (k : RpcCall) (url : String) {x : Exchange} (ends : x.Ends) (kept : ¬ ∃ e, x.Escapes e) :
    k.Settles url x (outcomeOf k url x).result := by
  cases ends with
  | failed failure =>
      simp only [outcomeOf, failure]
      exact .unreachable failure
  | timedOut limit => exact absurd ⟨_, .timedOut limit⟩ kept
  | answered status text =>
      cases read : Json.read text with
      | error cause =>
          simp only [outcomeOf, read]
          exact .garbled status read
      | ok body =>
          simp only [outcomeOf, read]
          split
          · rename_i marked
            refine .fault status read fun fields same unmarked => ?_
            rw [same, (fault_iff_marked fields).mpr unmarked] at marked
            cases marked
          · rename_i unmarked
            obtain ⟨fields, rfl⟩ := record_of_sound unmarked
            exact .result status read ((fault_iff_marked fields).mp (Bool.eq_false_iff.mpr unmarked))

end RpcClient

theorem RpcCall.settles_kind {k : RpcCall} {url : String} {x : Exchange} {e : Error} (settles : k.Settles url x (.error e)) :
    e.kind = .ledgerTransport := by
  cases settles
  rfl

theorem Exchange.escapes_kind {x : Exchange} {e : Error} (escapes : x.Escapes e) : e.kind = .timedOut := by
  cases escapes with
  | timedOut limit => exact limit

-- The call is settled unless what comes of the exchange escapes, and that is then what the call ends with.
def RpcCall.Accounts (k : RpcCall) (url : String) (x : Exchange) (r : Except Error RpcOutcome) : Prop :=
  (k.Settles url x r ↔ ¬ ∃ e, x.Escapes e) ∧ ∀ e, x.Escapes e → r = .error e

theorem outcome_accounts (k : RpcCall) (url : String) {x : Exchange} (ends : x.Ends) :
    k.Accounts url x (RpcClient.outcomeOf k url x).result := by
  refine ⟨⟨?_, RpcClient.outcome_settled k url ends⟩, fun e => RpcClient.outcome_escaped k url⟩
  rintro settled ⟨e, escapes⟩
  rw [RpcClient.outcome_escaped k url escapes] at settled
  have transport := RpcCall.settles_kind settled
  cases transport.symm.trans (Exchange.escapes_kind escapes)

namespace Connection

-- One request goes out, and the call accounts for what comes of it.
theorem call_accounts {ν : Type} (net : Network ν) (c : Connection ν) {k : RpcCall} (wellFormed : k.WellFormed) :
    ∃ url params, c.posted k = .ok (url, params) ∧ (c.call net k).2.sent = c.sent ++ [c.request k url params] ∧
      let x := (net.exchange (c.request k url params) c.network).1
      (x.Ends → k.Accounts url x (c.call net k).1.result) := by
  obtain ⟨url, params, posted⟩ := c.posted_of_well_formed wellFormed
  refine ⟨url, params, posted, ?_⟩
  rw [call_posted posted]
  exact ⟨rfl, outcome_accounts k url⟩

def insertion : RpcCall := ⟨.text "insertDidDocument", .list [.record []], .int 7, .text "token", .null⟩

-- A client with a time limit of a second, before a network that always has one thing to say.
def limited : Connection Unit := ⟨⟨.empty, .int 1, none, true⟩, [], [], ()⟩

def always (x : Exchange) : Network Unit := ⟨fun _ world => (x, world)⟩

theorem insertion_well_formed : insertion.WellFormed := ⟨.inl rfl, [.record []], rfl⟩

theorem call_accounts_unconnected :
    let net := always (.failed (.foreign .connectionFailed))
    insertion.WellFormed ∧ (Exchange.failed (.foreign .connectionFailed)).Ends ∧
      ∃ url params, limited.posted insertion = .ok (url, params) ∧
        (limited.call net insertion).2.sent = limited.sent ++ [limited.request insertion url params] ∧
        let x := (net.exchange (limited.request insertion url params) limited.network).1
        (x.Ends → insertion.Accounts url x (limited.call net insertion).1.result) :=
  ⟨insertion_well_formed, .failed rfl, call_accounts _ limited insertion_well_formed⟩

-- A registry that does not answer in time leaves the call without any of its three endings.
theorem time_limit_unsettled :
    let answered := (limited.call (always (.failed (.foreign .timedOut))) insertion).1.result
    RpcClient.create .empty (.int 1) none = .ok limited.client ∧ insertion.WellFormed ∧
      (Exchange.failed (.foreign .timedOut)).Ends ∧ answered = .error (.foreign .timedOut) ∧
      ∀ url x, ¬ insertion.Settles url x answered := by
  intro answered
  obtain ⟨url, params, posted⟩ := limited.posted_of_well_formed insertion_well_formed
  have passed : answered = .error (.foreign .timedOut) := by
    simp only [answered, call_posted posted]
    exact RpcClient.outcome_escaped insertion url (.timedOut rfl)
  refine ⟨rfl, insertion_well_formed, .timedOut rfl, passed, fun url x settled => ?_⟩
  rw [passed] at settled
  cases RpcCall.settles_kind settled

end Connection
end EbsiDid
