import EbsiDid.Proofs.Ledger.Execution

set_option autoImplicit false

/-!
The course of a session through its phases. Every move is one of the machine's, each leaves the phase that
the one before it entered, and nothing moves on from an end. A session that is refused ends in `aborted`;
one whose transport raises an error of its own stays in the phase where that happened.
-/
namespace EbsiDid

namespace Phase

-- Between steps, within a step, and at the end.
def rests : Phase → Bool
  | .idle => true
  | .stepComplete => true
  | _ => false

def works : Phase → Bool
  | .building => true
  | .signing => true
  | .submitting => true
  | _ => false

def ends : Phase → Bool
  | .done => true
  | .aborted => true
  | _ => false

inductive Leads : Phase → Phase → Prop where
  | build {p : Phase} : p.rests = true → Leads p .building
  | sign : Leads .building .signing
  | submit : Leads .signing .submitting
  | complete : Leads .submitting .stepComplete
  | finish {p : Phase} : p.rests = true → Leads p .done
  | abort {p : Phase} : p.works = true → Leads p .aborted

theorem leads_from {p q : Phase} (leads : Leads p q) : p.ends = false := by
  cases leads with
  | build resting => cases p <;> simp_all [rests, ends]
  | sign => rfl
  | submit => rfl
  | complete => rfl
  | finish resting => cases p <;> simp_all [rests, ends]
  | abort working => cases p <;> simp_all [works, ends]

end Phase

inductive Course : Phase → List (Phase × Phase) → Phase → Prop where
  | still (p : Phase) : Course p [] p
  | move {p q last : Phase} {moves : List (Phase × Phase)} :
      p.Leads q → Course q moves last → Course p ((p, q) :: moves) last

theorem course_append {p middle last : Phase} {front back : List (Phase × Phase)} (first : Course p front middle)
    (second : Course middle back last) : Course p (front ++ back) last := by
  induction first with
  | still p => exact second
  | move leads _ ih => exact .move leads (ih second)

-- Only the last phase of a course can be an end.
theorem course_passes {p last : Phase} {moves : List (Phase × Phase)} (course : Course p moves last) :
    ∀ move ∈ moves, move.1.ends = false := by
  induction course with
  | still p => exact nofun
  | move leads _ ih =>
      intro move member
      cases member with
      | head => exact Phase.leads_from leads
      | tail _ later => exact ih move later

theorem course_last {p last : Phase} {moves : List (Phase × Phase)} (course : Course p moves last) :
    last = (moves.map Prod.snd).getLastD p := by
  induction course with
  | still p => rfl
  | move leads _ ih => rw [List.map_cons, List.getLastD_cons, ih]

namespace Trace

theorem moves_append (a b : Trace) : moves (a ++ b) = moves a ++ moves b := List.filterMap_append

theorem moves_moved (current next : Phase) (method : Option RpcMethod) (t : Trace) :
    moves (.moved current next method :: t) = (current, next) :: moves t := rfl

theorem moves_asked (kid transaction : Value) (t : Trace) : moves (.asked kid transaction :: t) = moves t := rfl

theorem moves_lines (log : Log) : moves (log.map Event.line) = [] := by
  simp only [moves, List.filterMap_map, List.filterMap_eq_nil_iff]
  intro line _
  rfl

end Trace

theorem Act.call_moves {τ : Type} (t : Transport τ) (c : RpcCall) (d : Desk τ) : (Act.call t c d).trace.moves = [] :=
  Trace.moves_lines _

namespace LedgerSession

variable {τ : Type}

-- Where an error stopped a step that began in `current`. What is told then comes last of all.
structure Halted (p : Position) (current : Phase) (trace : Trace) (e : Error) (front : Trace) (phase : Phase) : Prop where
  told : trace = front ++ farewell p phase e
  course : Course current front.moves phase
  works : phase.works = true
  signing : phase = .signing → aborts e = true

theorem signing_error_aborts (kid : Value) (e : Error) : aborts (signingError kid e) = true := by
  unfold aborts signingError
  by_cases own : e.kind.isA .signing = true
  · rw [if_pos own, own, Bool.or_true]
  · rw [if_neg own]
    rfl

def StepFollowed (p : Position) (current : Phase) (trace : Trace) : Except Error Value → Prop
  | .ok _ => Course current trace.moves .stepComplete
  | .error e => ∃ front phase, Halted p current trace e front phase

theorem run_step_followed (t : Transport τ) (s : Signer τ) (terms : SessionTerms) (id : Value) (p : Position)
    {current : Phase} (rests : current.rests = true) (params : Value) {d : Desk τ} {ended : Ended τ Value}
    (running : runStep t s terms id p current params d = ended) : StepFollowed p current ended.trace ended.result := by
  have firstMoves := Act.call_moves t (callOf terms id p.method params) d
  generalize building : Act.call t (callOf terms id p.method params) d = first at firstMoves
  cases built : verdict p.method id first.result with
  | error e =>
      have run := running.symm.trans (run_step_unbuilt building built)
      rw [run]
      refine ⟨.moved current .building (some p.method) :: first.trace, .building, rfl, ?_, rfl, nofun⟩
      rw [Trace.moves_moved, firstMoves]
      exact .move (.build rests) (.still _)
  | ok unsigned =>
      generalize signing : Act.sign s terms.kid unsigned first.desk = second
      cases signedBy : second.result with
      | error e =>
          have run := running.symm.trans (run_step_unsigned building built signing signedBy)
          rw [run]
          refine ⟨.moved current .building (some p.method) :: (first.trace ++
            [.moved .building .signing (some p.method), .asked terms.kid unsigned]), .signing, ?_, ?_, rfl,
            fun _ => signing_error_aborts terms.kid e⟩
          · simp only [List.cons_append, List.append_assoc, List.nil_append]
          · rw [Trace.moves_moved, Trace.moves_append, firstMoves]
            exact .move (.build rests) (.move .sign (.still _))
      | ok signed =>
          have lastMoves := Act.call_moves t
            (callOf terms id .sendSignedTransaction (.record (signed.envelope unsigned))) second.desk
          generalize submitting : Act.call t
            (callOf terms id .sendSignedTransaction (.record (signed.envelope unsigned))) second.desk = last at lastMoves
          cases taken : verdict .sendSignedTransaction id last.result with
          | error e =>
              have run := running.symm.trans (run_step_unsubmitted building built signing signedBy submitting taken)
              rw [run]
              refine ⟨.moved current .building (some p.method) :: (first.trace ++
                .moved .building .signing (some p.method) :: .asked terms.kid unsigned ::
                .moved .signing .submitting (some p.method) :: last.trace), .submitting, ?_, ?_, rfl, nofun⟩
              · simp only [List.cons_append, List.append_assoc]
              · rw [Trace.moves_moved, Trace.moves_append, firstMoves, Trace.moves_moved, Trace.moves_asked,
                  Trace.moves_moved, lastMoves]
                exact .move (.build rests) (.move .sign (.move .submit (.still _)))
          | ok receipt =>
              have run := running.symm.trans (run_step_worked building built signing signedBy submitting taken)
              rw [run]
              change Course current (Trace.moves _) .stepComplete
              rw [Trace.moves_moved, Trace.moves_append, firstMoves, Trace.moves_moved, Trace.moves_asked,
                Trace.moves_moved, Trace.moves_append, lastMoves]
              exact .move (.build rests) (.move .sign (.move .submit (.move .complete (.still _))))

-- An error stops one of the steps, after those before it were worked off.
def RunFollowed (steps : List WriteStep) (index count : Nat) (current : Phase) (trace : Trace) :
    Except Error (List Value) → Prop
  | .ok _ => Course current trace.moves .done
  | .error e => ∃ completed step undone front phase, steps = completed ++ step :: undone ∧
      Halted ⟨index + completed.length, count, step.method⟩ current trace e front phase

theorem run_steps_followed (t : Transport τ) (s : Signer τ) (terms : SessionTerms) (id : Value) (count : Nat)
    (steps : List WriteStep) (index : Nat) {current : Phase} (rests : current.rests = true) {d : Desk τ} {ended : Ended τ (List Value)}
    (running : runSteps t s terms id count index current steps d = ended) :
    RunFollowed steps index count current ended.trace ended.result := by
  induction steps generalizing index current d ended with
  | nil =>
      rw [← running]
      exact .move (.finish rests) (.still _)
  | cons step rest ih =>
      generalize stepping : runStep t s terms id ⟨index, count, step.method⟩ current step.params d = first
      have followed := run_step_followed t s terms id ⟨index, count, step.method⟩ rests step.params stepping
      cases outcome : first.result with
      | error e =>
          have run := running.symm.trans (run_steps_stopped stepping outcome)
          rw [outcome] at followed
          rw [run]
          obtain ⟨front, phase, halted⟩ := followed
          exact ⟨[], step, rest, front, phase, rfl, halted⟩
      | ok receipt =>
          generalize later : runSteps t s terms id count (index + 1) .stepComplete rest first.desk = more
          have run := running.symm.trans (run_steps_worked stepping outcome later)
          have onwards := ih (index + 1) (rfl : Phase.stepComplete.rests = true) later
          rw [outcome] at followed
          rw [run]
          cases result : more.result with
          | ok receipts =>
              rw [result] at onwards
              change Course current (Trace.moves (first.trace ++ more.trace)) .done
              rw [Trace.moves_append]
              exact course_append followed onwards
          | error e =>
              rw [result] at onwards
              obtain ⟨completed, failing, undone, front, phase, rfl, halted⟩ := onwards
              refine ⟨step :: completed, failing, undone, first.trace ++ front, phase, rfl, ?_, ?_, halted.works,
                halted.signing⟩
              · rw [halted.told, List.append_assoc, List.length_cons, Nat.add_right_comm, Nat.add_assoc]
              · rw [Trace.moves_append]
                exact course_append followed halted.course

/-! ### The whole session -/

theorem farewell_aborted (p : Position) (phase : Phase) {e : Error} (told : aborts e = true) :
    farewell p phase e = [.moved phase .aborted (some p.method), .line ⟨.warning, warning p⟩] := if_pos told

theorem farewell_silent (p : Position) (phase : Phase) {e : Error} (kept : aborts e = false) : farewell p phase e = [] := by
  rw [farewell, kept, if_neg Bool.false_ne_true]

-- An error that aborts nothing is one that the transport raised, in the last contact of all.
theorem stopped_raised {terms : SessionTerms} {id : Value} {step : WriteStep} {contacts : List Contact} {e : Error}
    (stopped : Stopped terms id step contacts e) (kept : aborts e = false) :
    ∃ front c, contacts = front ++ [Contact.call c (.error e)] := by
  cases stopped with
  | buildFault given payload => cases kept
  | buildRaised e => exact ⟨[], _, rfl⟩
  | unsigned given unsigned e =>
      have told := signing_error_aborts terms.kid e
      rw [signingError, kept] at told
      cases told
  | submitFault given unsigned signed sent payload => cases kept
  | submitRaised given unsigned signed e => exact ⟨[_, _], _, rfl⟩

-- A session as it went through its phases, up to the last one. The warning counts the steps that were
-- worked off before the one that failed.
structure Followed (t : Transport τ) (s : Signer τ) (steps : List WriteStep) (d : Desk τ) (ended : Ended τ (List Value))
    (last : Phase) : Prop where
  course : Course .idle ended.trace.moves last
  passes : ∀ move ∈ ended.trace.moves, move.1.ends = false
  returns : last = .done ↔ ∃ receipts, ended.result = .ok receipts
  aborted : last = .aborted ↔ ∃ e, ended.result = .error e ∧ aborts e = true
  warned : last = .aborted → ∃ completed step undone front phase, steps = completed ++ step :: undone ∧
    ended.trace = front ++ [.moved phase .aborted (some step.method),
      .line ⟨.warning, warning ⟨completed.length, steps.length, step.method⟩⟩]
  raised : ∀ e, ended.result = .error e → aborts e = false → (last = .building ∨ last = .submitting) ∧
    ∃ contacts c, Plays t s { d with random := ended.desk.random } (contacts ++ [Contact.call c (.error e)]) ended.desk ∧
      ended.trace.requests = (contacts ++ [Contact.call c (.error e)]).map Contact.request

theorem followed_returned {t : Transport τ} {s : Signer τ} {steps : List WriteStep} {d : Desk τ}
    {ended : Ended τ (List Value)} {receipts : List Value} (returned : ended.result = .ok receipts)
    (course : Course .idle ended.trace.moves .done) : Followed t s steps d ended .done := by
  refine ⟨course, course_passes course, ⟨fun _ => ⟨receipts, returned⟩, fun _ => rfl⟩, ?_, nofun, ?_⟩
  · constructor
    · exact nofun
    · rintro ⟨e, failed, _⟩
      rw [returned] at failed
      cases failed
  · intro e failed
    rw [returned] at failed
    cases failed

theorem followed_aborted {t : Transport τ} {s : Signer τ} {completed undone : List WriteStep} {step : WriteStep}
    {d : Desk τ} {ended : Ended τ (List Value)} {e : Error} {front : Trace} {phase : Phase}
    (failed : ended.result = .error e) (told : aborts e = true)
    (halted : Halted ⟨completed.length, (completed ++ step :: undone).length, step.method⟩ .idle ended.trace e front phase) :
    Followed t s (completed ++ step :: undone) d ended .aborted := by
  have trace := halted.told
  rw [farewell_aborted _ _ told] at trace
  have course : Course .idle ended.trace.moves .aborted := by
    rw [trace, Trace.moves_append]
    exact course_append halted.course (.move (.abort halted.works) (.still _))
  refine ⟨course, course_passes course, ?_, ⟨fun _ => ⟨e, failed, told⟩, fun _ => rfl⟩,
    fun _ => ⟨completed, step, undone, front, phase, rfl, trace⟩, ?_⟩
  · constructor
    · exact nofun
    · rintro ⟨receipts, returned⟩
      rw [failed] at returned
      cases returned
  · intro other raised kept
    rw [failed] at raised
    cases raised
    rw [told] at kept
    cases kept

theorem followed_raised {t : Transport τ} {s : Signer τ} {steps : List WriteStep} {p : Position} {d : Desk τ}
    {ended : Ended τ (List Value)} {e : Error} {front : Trace} {phase : Phase} {contacts : List Contact} {c : RpcCall}
    (failed : ended.result = .error e) (kept : aborts e = false) (halted : Halted p .idle ended.trace e front phase)
    (played : Plays t s { d with random := ended.desk.random } (contacts ++ [Contact.call c (.error e)]) ended.desk)
    (requested : ended.trace.requests = (contacts ++ [Contact.call c (.error e)]).map Contact.request) :
    Followed t s steps d ended phase := by
  have course := halted.course
  have trace := halted.told
  rw [farewell_silent _ _ kept, List.append_nil] at trace
  rw [← trace] at course
  have within : phase = .building ∨ phase = .submitting := by
    have works := halted.works
    cases phase with
    | building => exact .inl rfl
    | submitting => exact .inr rfl
    | signing =>
        have told := halted.signing rfl
        rw [kept] at told
        cases told
    | _ => cases works
  refine ⟨course, course_passes course, ?_, ?_, ?_, ?_⟩
  · constructor
    · rintro rfl
      rcases within with other | other <;> cases other
    · rintro ⟨receipts, returned⟩
      rw [failed] at returned
      cases returned
  · constructor
    · rintro rfl
      rcases within with other | other <;> cases other
    · rintro ⟨other, raised, told⟩
      rw [failed] at raised
      cases raised
      rw [kept] at told
      cases told
  · rintro rfl
    rcases within with other | other <;> cases other
  · intro other raised _
    rw [failed] at raised
    cases raised
    exact ⟨within, contacts, c, played, requested⟩

-- Without an id a session does not begin. Otherwise it takes one course from `idle`: to `done` if and only if
-- it returns, and to `aborted` if and only if it is refused by the registry or not signed. What is left is an
-- error of the transport's own, after which the session stays where it is and nothing is told.
theorem execute_followed (t : Transport τ) (s : Signer τ) (terms : SessionTerms) (given : Value) (steps : List WriteStep)
    (d : Desk τ) :
    let ended := execute t s terms given steps d
    (given = .null ∧ d.random.rpcIds = [] ∧ ended = ⟨.error .noRpcIds, [], d⟩) ∨
      ∃ last, Followed t s steps d ended last := by
  intro ended
  by_cases exhausted : given = .null ∧ d.random.rpcIds = []
  · obtain ⟨rfl, none⟩ := exhausted
    exact .inl ⟨rfl, none, execute_without_id t s terms steps d none⟩
  · have available : given = .null → d.random.rpcIds ≠ [] := fun absent none => exhausted ⟨absent, none⟩
    obtain ⟨id, rest, _, run⟩ := execute_runs t s terms given steps d available
    obtain ⟨_, _, contacts, _, played, requested, session⟩ := execute_session t s terms given steps d available
    obtain ⟨rfl, _⟩ := plays_keys played
    have followed := run_steps_followed t s terms id steps.length steps 0 (rfl : Phase.idle.rests = true) run.symm
    cases outcome : (execute t s terms given steps d).result with
    | ok receipts =>
        rw [outcome] at followed
        exact .inr ⟨.done, followed_returned outcome followed⟩
    | error e =>
        rw [outcome] at followed session
        obtain ⟨completed, step, undone, front, phase, rfl, halted⟩ := followed
        rw [Nat.zero_add] at halted
        cases told : aborts e with
        | true => exact .inr ⟨.aborted, followed_aborted outcome told halted⟩
        | false =>
            obtain ⟨done, _, _, works, tail, _, _, rfl, stopped⟩ := session_failure session
            obtain ⟨others, c, rfl⟩ := stopped_raised stopped told
            rw [← List.append_assoc] at played requested
            exact .inr ⟨phase, followed_raised outcome told halted played requested⟩

def unreached : Error := .reported .ledgerTransport "scripted"

-- The second step is built and signed, and the registry is not reached when it is to be submitted.
theorem unreached_session_left_open :
    let params : Value := .record [("did", .text "did:ebsi:z1")]
    let unsigned : Value := .record [("to", .text "0x00")]
    let steps : List WriteStep := [⟨.insertDidDocument, params⟩, ⟨.addVerificationMethod, params⟩]
    let d : Desk (List Rehearsal.Prepared) := ⟨⟨[], []⟩, KeyManager.empty,
      [.result unsigned, .result (.text "0xreceipt"), .result unsigned, .failure unreached]⟩
    let ended := execute scripted ready ⟨.text "k1", .text "token", .null⟩ (.int 5) steps d
    ended.result = .error unreached ∧
      ¬ ∃ last, Course .idle ended.trace.moves last ∧ (last = .done ∨ last = .aborted) := by
  intro params unsigned steps d ended
  refine ⟨rfl, ?_⟩
  rintro ⟨last, course, final⟩
  have stays : last = .submitting := course_last course
  subst stays
  rcases final with other | other <;> cases other

end LedgerSession
end EbsiDid
