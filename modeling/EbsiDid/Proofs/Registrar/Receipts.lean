import EbsiDid.Proofs.Registrar.Lifetime
import EbsiDid.Proofs.Rpc.Reporting

set_option autoImplicit false

/-!
What stands behind a receipt, and behind a key or a service that was appended: answers to calls over a
connection, each a JSON object that has neither `status` nor `error`. Such an object need not have a result.
-/
namespace EbsiDid

variable {ν σ : Type}

theorem line_result_iff (net : Network ν) (k : RpcCall) (world : Connection ν × σ) (id v : Value) :
    ((Transport.line net).call k world).1.result = .ok (.result id v) ↔
      id = k.rpcId ∧ Connection.Reports net world.1 k v := Connection.call_result_iff net world.1 k id v

theorem plays_reported {net : Network ν} {s : Signer (Connection ν × σ)} {contacts : List Contact}
    {d last : Desk (Connection ν × σ)} (played : Plays (Transport.line net) s d contacts last) {k : RpcCall} {id v : Value}
    (member : .call k (.ok (.result id v)) ∈ contacts) : ∃ c, Connection.Reports net c k v := by
  obtain ⟨world, answer⟩ := plays_called played member
  exact ⟨world.1, ((line_result_iff net k world id v).mp answer.symm).2⟩

namespace LedgerSession

theorem receipts_submitted {terms : SessionTerms} {id : Value} {steps : List WriteStep} {contacts : List Contact}
    {receipts : List Value} (session : Session terms id steps contacts (.ok receipts)) {receipt : Value}
    (member : receipt ∈ receipts) : ∃ unsigned signed sent,
      .call (submitCall terms id unsigned signed) (.ok (.result sent receipt)) ∈ contacts := by
  generalize ended : (Except.ok receipts : Except Error (List Value)) = result at session
  induction session generalizing receipts with
  | done =>
      cases ended
      cases member
  | stopped => cases ended
  | @worked step rest contacts result w session ih =>
      cases result with
      | error e => cases ended
      | ok more =>
          cases ended
          cases List.mem_cons.mp member with
          | inl here =>
              subst here
              exact ⟨w.unsigned, w.signed, w.submitId, by simp [Work.contacts]⟩
          | inr later =>
              obtain ⟨unsigned, signed, sent, among⟩ := ih later rfl
              exact ⟨unsigned, signed, sent, List.mem_append_right _ among⟩

end LedgerSession

-- Every call of a run was answered with a result, and every receipt is the value of an answer to a submission.
structure Backed (net : Network ν) (trace : Trace) (receipts : List Value) : Prop where
  calls : ∀ k, .call k ∈ trace.requests → ∃ c v, Connection.Reports net c k v
  receipts : ∀ receipt ∈ receipts, ∃ c k, .call k ∈ trace.requests ∧ k.method = .text "sendSignedTransaction" ∧
    Connection.Reports net c k receipt

namespace EbsiRegistrar

variable {reg : EbsiRegistrar} {net : Network ν} {s : Signer (Connection ν × σ)} {clock : Value}

theorem write_backed {kid : Value} {o : Record} {steps : Except Error (List WriteStep)} {d : Desk (Connection ν × σ)}
    {receipts : List Value}
    (returned : (reg.write ⟨Transport.line net, s, clock⟩ kid o steps d).result = .ok receipts) :
    Backed net (reg.write ⟨Transport.line net, s, clock⟩ kid o steps d).trace receipts := by
  cases steps with
  | error e => cases returned
  | ok steps =>
      obtain ⟨e, run, _⟩ | ⟨terms, id, contacts, _, played, requested, session⟩ :=
        write_cases reg ⟨Transport.line net, s, clock⟩ kid o steps d
      · rw [run] at returned
        cases returned
      · rw [returned] at session
        obtain ⟨_, _, succeed⟩ := (LedgerSession.session_returns_iff session).mp ⟨receipts, rfl⟩
        constructor
        · intro k member
          rw [requested] at member
          obtain ⟨contact, among, same⟩ := List.mem_map.mp member
          cases contact with
          | sign _ _ _ => cases same
          | call other answer =>
              cases same
              have succeeded := succeed _ among
              cases answer with
              | error e => cases succeeded
              | ok outcome =>
                  cases outcome with
                  | fault given payload => cases succeeded
                  | result given value =>
                      obtain ⟨c, reports⟩ := plays_reported played among
                      exact ⟨c, value, reports⟩
        · intro receipt member
          obtain ⟨unsigned, signed, sent, among⟩ := LedgerSession.receipts_submitted session member
          obtain ⟨c, reports⟩ := plays_reported played among
          refine ⟨c, _, ?_, rfl, reports⟩
          rw [requested]
          exact List.mem_map.mpr ⟨_, among, rfl⟩

-- A session whose success is noted by one event.
theorem noted_backed {α : Type} {kid : Value} {o : Record} {steps : Except Error (List WriteStep)}
    {d : Desk (Connection ν × σ)} {event : Event} (quiet : event.request? = none) (f : List Value → α) {a : α} :
    let ended := (reg.write ⟨Transport.line net, s, clock⟩ kid o steps >>= fun receipts =>
      Act.record event >>= fun _ => pure (f receipts)) d
    ended.result = .ok a → ∃ receipts, a = f receipts ∧ Backed net ended.trace receipts := by
  intro ended returned
  obtain ⟨ends, traced, _⟩ := Act.noted_run (reg.write ⟨Transport.line net, s, clock⟩ kid o steps) event quiet f d
  rw [ends] at returned
  cases outcome : (reg.write ⟨Transport.line net, s, clock⟩ kid o steps d).result with
  | error e =>
      rw [outcome] at returned
      cases returned
  | ok receipts =>
      rw [outcome] at returned
      cases returned
      obtain ⟨calls, submitted⟩ := write_backed outcome
      rw [← traced] at calls submitted
      exact ⟨receipts, rfl, calls, submitted⟩

theorem add_key_backed {i after : Identifier} {key : KeyDescriptor} {options : Value} {d : Desk (Connection ν × σ)}
    {receipts : List Value}
    (returned : (reg.addKey ⟨Transport.line net, s, clock⟩ i key options d).result = .ok (receipts, after)) :
    Backed net (reg.addKey ⟨Transport.line net, s, clock⟩ i key options d).trace receipts := by
  by_cases checks : ∃ o rels controller, Checked i options o rels controller
  · obtain ⟨o, rels, controller, checked⟩ := checks
    rw [add_key_checked reg _ i key options d checked] at returned ⊢
    cases interval : Validity.ofOptions o clock with
    | error e =>
        rw [interval] at returned
        cases returned
    | ok v =>
        rw [interval] at returned
        obtain ⟨_, same, backed⟩ := noted_backed rfl (fun receipts => (receipts, i.addKey key)) returned
        cases same
        exact backed
  · obtain ⟨e, run⟩ := add_key_unchecked reg ⟨Transport.line net, s, clock⟩ i key options d checks
    rw [run] at returned
    cases returned

theorem add_service_backed {i after : Identifier} {service : Service} {options : Value} {d : Desk (Connection ν × σ)}
    {receipt : Value}
    (returned : (reg.addService ⟨Transport.line net, s, clock⟩ i service options d).result = .ok (receipt, after)) :
    ∃ receipts, receipt = receipts.headD .null ∧
      Backed net (reg.addService ⟨Transport.line net, s, clock⟩ i service options d).trace receipts := by
  by_cases checks : ∃ o controller, ServiceChecked i options o controller
  · obtain ⟨o, controller, checked⟩ := checks
    rw [add_service_checked reg _ i service options d checked] at returned ⊢
    obtain ⟨receipts, same, backed⟩ :=
      noted_backed rfl (fun receipts => (receipts.headD .null, i.addService service)) returned
    cases same
    exact ⟨receipts, rfl, backed⟩
  · obtain ⟨e, run⟩ := add_service_unchecked reg ⟨Transport.line net, s, clock⟩ i service options d checks
    rw [run] at returned
    cases returned

end EbsiRegistrar

-- What is reported as a result, to a caller and to the registrar, and what is made of it. An object without a
-- result, status or error is reported as one like any other.
theorem results_unmarked (reg : EbsiRegistrar) (net : Network ν) (s : Signer (Connection ν × σ)) (clock : Value) :
    (∀ c k id v, (Connection.call net c k).1.result = .ok (.result id v) ↔
      id = k.rpcId ∧ Connection.Reports net c k v) ∧
    (∀ i key options d receipts after,
      let ended := reg.addKey ⟨Transport.line net, s, clock⟩ i key options d
      ended.result = .ok (receipts, after) → Backed net ended.trace receipts) ∧
    ∀ i service options d receipt after,
      let ended := reg.addService ⟨Transport.line net, s, clock⟩ i service options d
      ended.result = .ok (receipt, after) → ∃ receipts, receipt = receipts.headD .null ∧ Backed net ended.trace receipts :=
  ⟨Connection.call_result_iff net, fun _ _ _ _ _ _ => EbsiRegistrar.add_key_backed,
    fun _ _ _ _ _ _ => EbsiRegistrar.add_service_backed⟩

def refusing : Network Unit where
  exchange _ _ := (.answered (.int 401) (.text "\x7b\x7d"), ())

-- An empty object with status 401 is reported as a result, and stands as the receipt of a submission.
theorem refusal_reported :
    let c : Connection Unit := ⟨⟨Settings.empty, .null, none, true⟩, [], [], ()⟩
    let k : RpcCall := ⟨.text "sendSignedTransaction", .list [.record []], .int 7, .text "token", .null⟩
    let d : Desk (Connection Unit × Unit) := ⟨⟨[], []⟩, KeyManager.empty, c, ()⟩
    let signer : Signer Unit := .outside fun _ _ world => (.ok ⟨.text "0x1", .text "0x2", .int 27, .text "0x3"⟩, world)
    (c.call refusing k).1.result = .ok (.result (.int 7) .null) ∧
      (¬ ∃ fields, Connection.Answers refusing c k fields ∧ Record.has "result" fields = true) ∧
      (LedgerSession.execute (Transport.line refusing) signer.beside ⟨.text "k1", .text "token", .null⟩ (.int 7)
        [⟨.addVerificationMethod, .null⟩] d).result = .ok [.null] := by
  intro c k d signer
  refine ⟨rfl, ?_, rfl⟩
  rintro ⟨fields, ⟨status, text, came, read⟩, found⟩
  cases came
  cases read
  cases found

end EbsiDid
