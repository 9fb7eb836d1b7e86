import EbsiDid.Proofs.Ledger.Session

set_option autoImplicit false

/-!
What a step of a session does and what the loop over the steps does: the contacts that they make are
those of a `Session`, and every answer is one that the outside gave.
-/
namespace EbsiDid.LedgerSession

variable {τ : Type}

/-! ### One step -/

def verdict (method : RpcMethod) (id : Value) : Except Error RpcOutcome → Except Error Value
  | .ok (.result _ value) => .ok value
  | .ok (.fault _ payload) => .error (.rpcFault payload method.name id)
  | .error e => .error e

-- What an error leaves in the trace of the phase that it ends.
def farewell (p : Position) (current : Phase) (e : Error) : Trace :=
  if aborts e then [.moved current .aborted (some p.method), .line ⟨.warning, warning p⟩] else []

theorem farewell_requests (p : Position) (current : Phase) (e : Error) : (farewell p current e).requests = [] := by
  unfold farewell
  split <;> rfl

theorem invoke_ended (t : Transport τ) (terms : SessionTerms) (id : Value) (method : RpcMethod)
    (params : Value) (d : Desk τ) :
    invoke t terms id method params d =
      ⟨verdict method id (Act.call t (callOf terms id method params) d).result,
        (Act.call t (callOf terms id method params) d).trace,
        (Act.call t (callOf terms id method params) d).desk⟩ := by
  unfold invoke
  cases answer : (Act.call t (callOf terms id method params) d).result with
  | error e =>
      rw [Act.bind_of_error answer]
      rfl
  | ok outcome =>
      rw [Act.bind_of_ok answer]
      cases outcome <;> simp only [verdict, Act.fail, pure, Act.pure, List.append_nil]

theorem ask_signature_ended (s : Signer τ) (terms : SessionTerms) (unsigned : Value) (d : Desk τ) :
    askSignature s terms unsigned d =
      ⟨(Act.sign s terms.kid unsigned d).result.mapError (signingError terms.kid), [.asked terms.kid unsigned],
        (Act.sign s terms.kid unsigned d).desk⟩ := by
  rw [← Act.sign_trace s terms.kid unsigned d]
  rfl

theorem move_bind {α : Type} (current next : Phase) (method : Option RpcMethod) (f : Unit → Act τ α) (d : Desk τ) :
    (move current next method >>= f) d =
      ⟨(f () d).result, .moved current next method :: (f () d).trace, (f () d).desk⟩ := rfl

section Phases

variable {α β : Type} {p : Position} {current : Phase} {x : Act τ α} {f : α → Act τ β} {d last : Desk τ}
  {trace : Trace}

theorem during_bind_of_ok {a : α} (ends : x d = ⟨.ok a, trace, last⟩) :
    (during p current x >>= f) d = ⟨(f a last).result, trace ++ (f a last).trace, (f a last).desk⟩ := by
  have phase : during p current x d = ⟨.ok a, trace, last⟩ := by
    simp only [during, Act.onError, ends]
  rw [Act.bind_of_ok (congrArg Ended.result phase), phase]

theorem during_bind_of_error {e : Error} (ends : x d = ⟨.error e, trace, last⟩) :
    (during p current x >>= f) d = ⟨.error e, trace ++ farewell p current e, last⟩ := by
  have phase : during p current x d = ⟨.error e, trace ++ farewell p current e, last⟩ := by
    simp only [during, Act.onError, ends, abort, farewell]
    by_cases told : aborts e = true
    · simp only [if_pos told]
      rfl
    · simp only [if_neg told]
      rfl
  rw [Act.bind_of_error (congrArg Ended.result phase), phase]

end Phases

section Steps

-- The equations of a step, by where it ends. They give the whole trace, moves and log lines included.
variable {t : Transport τ} {s : Signer τ} {terms : SessionTerms} {id : Value} {p : Position} {current : Phase}
  {params unsigned receipt : Value} {signed : SignedTransaction} {e : Error} {d : Desk τ}
  {first last : Ended τ RpcOutcome} {second : Ended τ SignedTransaction}

theorem run_step_unbuilt (building : Act.call t (callOf terms id p.method params) d = first)
    (failed : verdict p.method id first.result = .error e) :
    runStep t s terms id p current params d =
      ⟨.error e, .moved current .building (some p.method) :: (first.trace ++ farewell p .building e), first.desk⟩ := by
  have invoked := invoke_ended t terms id p.method params d
  rw [building, failed] at invoked
  rw [runStep, move_bind, during_bind_of_error invoked]

theorem run_step_unsigned (building : Act.call t (callOf terms id p.method params) d = first)
    (built : verdict p.method id first.result = .ok unsigned)
    (signing : Act.sign s terms.kid unsigned first.desk = second) (failed : second.result = .error e) :
    runStep t s terms id p current params d =
      ⟨.error (signingError terms.kid e),
        .moved current .building (some p.method) :: (first.trace ++ .moved .building .signing (some p.method) ::
          .asked terms.kid unsigned :: farewell p .signing (signingError terms.kid e)), second.desk⟩ := by
  have invoked := invoke_ended t terms id p.method params d
  rw [building, built] at invoked
  have asked := ask_signature_ended s terms unsigned first.desk
  rw [signing, failed] at asked
  rw [runStep, move_bind, during_bind_of_ok invoked, move_bind, during_bind_of_error asked]
  rfl

theorem run_step_unsubmitted (building : Act.call t (callOf terms id p.method params) d = first)
    (built : verdict p.method id first.result = .ok unsigned)
    (signing : Act.sign s terms.kid unsigned first.desk = second) (done : second.result = .ok signed)
    (submitting : Act.call t (callOf terms id .sendSignedTransaction (.record (signed.envelope unsigned))) second.desk
      = last)
    (failed : verdict .sendSignedTransaction id last.result = .error e) :
    runStep t s terms id p current params d =
      ⟨.error e, .moved current .building (some p.method) :: (first.trace ++ .moved .building .signing (some p.method) ::
        .asked terms.kid unsigned :: .moved .signing .submitting (some p.method) ::
        (last.trace ++ farewell p .submitting e)), last.desk⟩ := by
  have invoked := invoke_ended t terms id p.method params d
  rw [building, built] at invoked
  have asked := ask_signature_ended s terms unsigned first.desk
  rw [signing, done] at asked
  have submitted := invoke_ended t terms id .sendSignedTransaction (.record (signed.envelope unsigned)) second.desk
  rw [submitting, failed] at submitted
  rw [runStep, move_bind, during_bind_of_ok invoked, move_bind, during_bind_of_ok asked, move_bind,
    during_bind_of_error submitted]
  rfl

theorem run_step_worked (building : Act.call t (callOf terms id p.method params) d = first)
    (built : verdict p.method id first.result = .ok unsigned)
    (signing : Act.sign s terms.kid unsigned first.desk = second) (done : second.result = .ok signed)
    (submitting : Act.call t (callOf terms id .sendSignedTransaction (.record (signed.envelope unsigned))) second.desk
      = last)
    (taken : verdict .sendSignedTransaction id last.result = .ok receipt) :
    runStep t s terms id p current params d =
      ⟨.ok receipt, .moved current .building (some p.method) :: (first.trace ++ .moved .building .signing (some p.method) ::
        .asked terms.kid unsigned :: .moved .signing .submitting (some p.method) ::
        (last.trace ++ [.moved .submitting .stepComplete (some p.method)])), last.desk⟩ := by
  have invoked := invoke_ended t terms id p.method params d
  rw [building, built] at invoked
  have asked := ask_signature_ended s terms unsigned first.desk
  rw [signing, done] at asked
  have submitted := invoke_ended t terms id .sendSignedTransaction (.record (signed.envelope unsigned)) second.desk
  rw [submitting, taken] at submitted
  rw [runStep, move_bind, during_bind_of_ok invoked, move_bind, during_bind_of_ok asked, move_bind,
    during_bind_of_ok submitted, move_bind]
  rfl

end Steps

/-! ### What a step does, whatever the answers -/

theorem verdict_ok {method : RpcMethod} {id value : Value} {answer : Except Error RpcOutcome}
    (taken : verdict method id answer = .ok value) : ∃ given, answer = .ok (.result given value) := by
  cases answer with
  | error e => cases taken
  | ok outcome =>
      cases outcome with
      | fault given payload => cases taken
      | result given result =>
          cases taken
          exact ⟨given, rfl⟩

theorem stopped_building {terms : SessionTerms} {id : Value} {step : WriteStep} {answer : Except Error RpcOutcome}
    {e : Error} (failed : verdict step.method id answer = .error e) :
    Stopped terms id step [.call (buildCall terms id step) answer] e := by
  cases answer with
  | error e =>
      cases failed
      exact .buildRaised e
  | ok outcome =>
      cases outcome with
      | result given value => cases failed
      | fault given payload =>
          cases failed
          exact .buildFault given payload

theorem stopped_submitting {terms : SessionTerms} {id : Value} {step : WriteStep} {answer : Except Error RpcOutcome}
    {e : Error} (given unsigned : Value) (signed : SignedTransaction)
    (failed : verdict .sendSignedTransaction id answer = .error e) :
    Stopped terms id step [.call (buildCall terms id step) (.ok (.result given unsigned)),
      .sign terms.kid unsigned (.ok signed), .call (submitCall terms id unsigned signed) answer] e := by
  cases answer with
  | error e =>
      cases failed
      exact .submitRaised given unsigned signed e
  | ok outcome =>
      cases outcome with
      | result sent value => cases failed
      | fault sent payload =>
          cases failed
          exact .submitFault given unsigned signed sent payload

-- A step is stopped where its first contact fails, or it is worked off.
def StepEnded (terms : SessionTerms) (id : Value) (step : WriteStep) (contacts : List Contact) :
    Except Error Value → Prop
  | .error e => Stopped terms id step contacts e
  | .ok receipt => ∃ w : Work, w.receipt = receipt ∧ contacts = w.contacts terms id step

theorem run_step_session (t : Transport τ) (s : Signer τ) (terms : SessionTerms) (id : Value) (step : WriteStep)
    (index count : Nat) (current : Phase) (d : Desk τ) :
    let ended := runStep t s terms id ⟨index, count, step.method⟩ current step.params d
    ∃ contacts, Plays t s d contacts ended.desk ∧ ended.trace.requests = contacts.map Contact.request ∧
      StepEnded terms id step contacts ended.result := by
  intro ended
  have firstRequest := Act.call_trace t (buildCall terms id step) d
  generalize building : Act.call t (buildCall terms id step) d = first at firstRequest
  cases built : verdict step.method id first.result with
  | error e =>
      have run : ended = _ := run_step_unbuilt building built
      refine ⟨[.call (buildCall terms id step) first.result], ?_, ?_, ?_⟩
      · rw [run, Plays, building]
        exact ⟨rfl, rfl⟩
      · rw [run, Trace.requests_moved, Trace.requests_append, farewell_requests, firstRequest]
        rfl
      · rw [run]
        exact stopped_building built
  | ok unsigned =>
      obtain ⟨given, answered⟩ := verdict_ok built
      generalize signing : Act.sign s terms.kid unsigned first.desk = second
      cases signedBy : second.result with
      | error e =>
          have run : ended = _ := run_step_unsigned building built signing signedBy
          refine ⟨[.call (buildCall terms id step) (.ok (.result given unsigned)),
            .sign terms.kid unsigned (.error e)], ?_, ?_, ?_⟩
          · rw [run, Plays, building, Plays, signing]
            exact ⟨answered.symm, signedBy.symm, rfl⟩
          · rw [run, Trace.requests_moved, Trace.requests_append, firstRequest, Trace.requests_moved,
              Trace.requests_asked, farewell_requests]
            rfl
          · rw [run]
            exact .unsigned given unsigned e
      | ok signed =>
          have lastRequest := Act.call_trace t (submitCall terms id unsigned signed) second.desk
          generalize submitting : Act.call t (submitCall terms id unsigned signed) second.desk = last at lastRequest
          cases taken : verdict .sendSignedTransaction id last.result with
          | error e =>
              have run : ended = _ := run_step_unsubmitted building built signing signedBy submitting taken
              refine ⟨[.call (buildCall terms id step) (.ok (.result given unsigned)),
                .sign terms.kid unsigned (.ok signed),
                .call (submitCall terms id unsigned signed) last.result], ?_, ?_, ?_⟩
              · rw [run, Plays, building, Plays, signing, Plays, submitting]
                exact ⟨answered.symm, signedBy.symm, rfl, rfl⟩
              · rw [run, Trace.requests_moved, Trace.requests_append, firstRequest, Trace.requests_moved,
                  Trace.requests_asked, Trace.requests_moved, Trace.requests_append, lastRequest, farewell_requests]
                rfl
              · rw [run]
                exact stopped_submitting given unsigned signed taken
          | ok receipt =>
              obtain ⟨sent, accepted⟩ := verdict_ok taken
              have run : ended = _ := run_step_worked building built signing signedBy submitting taken
              let w : Work := ⟨given, unsigned, signed, sent, receipt⟩
              refine ⟨w.contacts terms id step, ?_, ?_, ?_⟩
              · rw [run, Work.contacts, Plays, building, Plays, signing, Plays, submitting]
                exact ⟨answered.symm, signedBy.symm, accepted.symm, rfl⟩
              · rw [run, Trace.requests_moved, Trace.requests_append, firstRequest, Trace.requests_moved,
                  Trace.requests_asked, Trace.requests_moved, Trace.requests_append, lastRequest]
                rfl
              · rw [run]
                exact ⟨w, rfl, rfl⟩

/-! ### The whole session -/

section Sessions

variable {t : Transport τ} {s : Signer τ} {terms : SessionTerms} {id : Value} {count index : Nat} {current : Phase}
  {step : WriteStep} {rest : List WriteStep} {d : Desk τ} {first : Ended τ Value}

theorem run_steps_stopped {e : Error}
    (running : runStep t s terms id ⟨index, count, step.method⟩ current step.params d = first)
    (failed : first.result = .error e) :
    runSteps t s terms id count index current (step :: rest) d = ⟨.error e, first.trace, first.desk⟩ := by
  rw [← running] at failed ⊢
  rw [runSteps, Act.bind_of_error failed]

theorem run_steps_worked {receipt : Value} {more : Ended τ (List Value)}
    (running : runStep t s terms id ⟨index, count, step.method⟩ current step.params d = first)
    (worked : first.result = .ok receipt)
    (later : runSteps t s terms id count (index + 1) .stepComplete rest first.desk = more) :
    runSteps t s terms id count index current (step :: rest) d =
      ⟨more.result.map (receipt :: ·), first.trace ++ more.trace, more.desk⟩ := by
  rw [← running] at worked later ⊢
  rw [runSteps, Act.bind_of_ok worked]
  cases outcome : more.result with
  | error e =>
      rw [← later] at outcome ⊢
      rw [Act.bind_of_error outcome]
      rfl
  | ok receipts =>
      rw [← later] at outcome ⊢
      rw [Act.bind_of_ok outcome]
      simp only [pure, Act.pure, List.append_nil, Except.map]

end Sessions

theorem run_steps_session (t : Transport τ) (s : Signer τ) (terms : SessionTerms) (id : Value) (count : Nat)
    (steps : List WriteStep) (index : Nat) (current : Phase) (d : Desk τ) :
    let ended := runSteps t s terms id count index current steps d
    ∃ contacts, Plays t s d contacts ended.desk ∧ ended.trace.requests = contacts.map Contact.request ∧
      Session terms id steps contacts ended.result := by
  induction steps generalizing index current d with
  | nil => exact ⟨[], rfl, rfl, .done⟩
  | cons step rest ih =>
      intro ended
      obtain ⟨contacts, played, requested, stepped⟩ := run_step_session t s terms id step index count current d
      generalize running : runStep t s terms id ⟨index, count, step.method⟩ current step.params d = first
        at played requested stepped
      cases outcome : first.result with
      | error e =>
          have run : ended = _ := run_steps_stopped running outcome
          rw [outcome] at stepped
          rw [run]
          exact ⟨contacts, played, requested, .stopped stepped⟩
      | ok receipt =>
          have run : ended = _ := run_steps_worked running outcome rfl
          obtain ⟨more, morePlayed, moreRequested, session⟩ := ih (index + 1) .stepComplete first.desk
          rw [outcome] at stepped
          obtain ⟨w, rfl, rfl⟩ := stepped
          rw [run]
          refine ⟨w.contacts terms id step ++ more, plays_append played morePlayed, ?_, .worked w session⟩
          rw [Trace.requests_append, requested, moreRequested, List.map_append]

end EbsiDid.LedgerSession
