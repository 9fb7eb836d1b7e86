import EbsiDid.Proofs.Ledger.Step
import EbsiDid.Rpc.Rehearsal

set_option autoImplicit false

/-!
The execution of a session: one id for all of its calls, then the steps in order up to the first contact
that fails. `execute_ran` says all of it at once.
-/
namespace EbsiDid.LedgerSession

variable {τ : Type}

-- The id of a session is the one given, whatever it is, or else the next one of the random material.
def Chosen (given : Value) (random : RandomStream) (id : Value) (rest : RandomStream) : Prop :=
  (given ≠ .null ∧ id = given ∧ rest = random) ∨
    (given = .null ∧ random.rpcIds = id :: rest.rpcIds ∧ rest.bytes = random.bytes)

theorem choose_rpc_id (given : Value) (d : Desk τ) (available : given = .null → d.random.rpcIds ≠ []) :
    ∃ id rest, Chosen given d.random id rest ∧
      chooseRpcId given d = ⟨.ok id, [], { d with random := rest }⟩ := by
  by_cases absent : given = .null
  · subst absent
    cases ids : d.random.rpcIds with
    | nil => exact absurd ids (available rfl)
    | cons id others =>
        refine ⟨id, { d.random with rpcIds := others }, .inr ⟨rfl, ids, rfl⟩, ?_⟩
        simp only [chooseRpcId, Act.draw, RandomStream.takeRpcId, ids]
  · refine ⟨given, d.random, .inl ⟨absent, rfl, rfl⟩, ?_⟩
    cases given <;> first | exact absurd rfl absent | rfl

theorem execute_without_id (t : Transport τ) (s : Signer τ) (terms : SessionTerms) (steps : List WriteStep) (d : Desk τ)
    (exhausted : d.random.rpcIds = []) : execute t s terms .null steps d = ⟨.error .noRpcIds, [], d⟩ := by
  have choice : chooseRpcId .null d = ⟨.error .noRpcIds, [], d⟩ := by
    simp only [chooseRpcId, Act.draw, RandomStream.takeRpcId, exhausted]
  rw [execute, Act.bind_of_error (congrArg Ended.result choice), choice]

theorem execute_runs (t : Transport τ) (s : Signer τ) (terms : SessionTerms) (given : Value) (steps : List WriteStep)
    (d : Desk τ) (available : given = .null → d.random.rpcIds ≠ []) :
    ∃ id rest, Chosen given d.random id rest ∧
      execute t s terms given steps d = runSteps t s terms id steps.length 0 .idle steps { d with random := rest } := by
  obtain ⟨id, rest, chosen, choice⟩ := choose_rpc_id given d available
  refine ⟨id, rest, chosen, ?_⟩
  rw [execute, Act.bind_of_ok (congrArg Ended.result choice), choice]
  rfl

theorem execute_session (t : Transport τ) (s : Signer τ) (terms : SessionTerms) (given : Value)
    (steps : List WriteStep) (d : Desk τ) (available : given = .null → d.random.rpcIds ≠ []) :
    let ended := execute t s terms given steps d
    ∃ id rest contacts, Chosen given d.random id rest ∧ Plays t s { d with random := rest } contacts ended.desk ∧
      ended.trace.requests = contacts.map Contact.request ∧ Session terms id steps contacts ended.result := by
  intro ended
  obtain ⟨id, rest, chosen, run⟩ := execute_runs t s terms given steps d available
  have run : ended = _ := run
  rw [run]
  obtain ⟨contacts, session⟩ := run_steps_session t s terms id steps.length steps 0 .idle { d with random := rest }
  exact ⟨id, rest, contacts, chosen, session⟩

-- A session as it went, seen from outside. Requests are in the order in which they were made; an answer
-- is what the transport or the signer gives at that point; `Stopped` tells the error of each way to fail.
structure Ran (t : Transport τ) (s : Signer τ) (terms : SessionTerms) (given : Value) (steps : List WriteStep)
    (d : Desk τ) (id : Value) (contacts : List Contact) (ended : Ended τ (List Value)) : Prop where
  chosen : Chosen given d.random id ended.desk.random
  played : Plays t s { d with random := ended.desk.random } contacts ended.desk
  requested : ended.trace.requests = contacts.map Contact.request
  session : Session terms id steps contacts ended.result
  shared : ∀ c ∈ Contact.calls contacts, c.rpcId = id ∧ c.token = terms.token ∧ c.apiOpts = terms.apiOpts
  signer : ∀ signature ∈ Contact.signatures contacts, signature.1 = terms.kid
  stops : ∀ contact ∈ contacts.dropLast, contact.succeeds = true
  returns : (∃ receipts, ended.result = .ok receipts) ↔
    (Contact.calls contacts).length = 2 * steps.length ∧ (Contact.signatures contacts).length = steps.length ∧
      ∀ contact ∈ contacts, contact.succeeds = true
  receipts : ∀ receipts, ended.result = .ok receipts → ∃ works : List Work, works.length = steps.length ∧
    contacts = workedContacts terms id steps works ∧ receipts = works.map Work.receipt
  failure : ∀ e, ended.result = .error e → ∃ done step undone works tail, steps = done ++ step :: undone ∧
    works.length = done.length ∧ contacts = workedContacts terms id done works ++ tail ∧
    Stopped terms id step tail e

theorem execute_ran (t : Transport τ) (s : Signer τ) (terms : SessionTerms) (given : Value) (steps : List WriteStep)
    (d : Desk τ) (available : given = .null → d.random.rpcIds ≠ []) :
    ∃ id contacts, Ran t s terms given steps d id contacts (execute t s terms given steps d) := by
  obtain ⟨id, rest, contacts, chosen, played, requested, session⟩ := execute_session t s terms given steps d available
  obtain ⟨rfl, _⟩ := plays_keys played
  refine ⟨id, contacts, chosen, played, requested, session, ?_, ?_, session_succeeds_before_last session,
    session_returns_iff session, ?_, ?_⟩
  · intro c member
    cases session_calls session member with
    | inl built =>
        obtain ⟨step, _, rfl⟩ := built
        exact ⟨rfl, rfl, rfl⟩
    | inr submitted =>
        obtain ⟨unsigned, signed, rfl⟩ := submitted
        exact ⟨rfl, rfl, rfl⟩
  · intro signature member
    exact session_signatures session member
  · intro receipts returned
    rw [returned] at session
    exact session_receipts session
  · intro e raised
    rw [raised] at session
    exact session_failure session

def scripted : Transport (List Rehearsal.Prepared) where
  call c script := (.silent (Rehearsal.play c script).1, (Rehearsal.play c script).2)

def ready : Signer τ :=
  .outside fun _ _ world => (.ok ⟨.text "0x1", .text "0x2", .int 27, .text "0x3"⟩, world)

-- Two steps, taken to the end and, in the other run, refused after the second is built and signed.
theorem execute_ran_to_the_last_call :
    let steps : List WriteStep := [⟨.addVerificationMethod, .null⟩, ⟨.addService, .null⟩]
    let terms : SessionTerms := ⟨.text "k1", .text "token", .null⟩
    let before (last : Rehearsal.Prepared) : Desk (List Rehearsal.Prepared) := ⟨⟨[], [.int 42]⟩, KeyManager.empty,
      [.result .null, .result (.text "0xreceipt"), .result (.text "0xbuilt"), last]⟩
    let ended (last : Rehearsal.Prepared) := execute scripted ready terms .null steps (before last)
    (ended (.result (.text "0xother"))).result = .ok [.text "0xreceipt", .text "0xother"] ∧
      (ended (.fault (.text "denied"))).result = .error (.rpcFault (.text "denied") "sendSignedTransaction" (.int 42)) ∧
      ∀ last, ∃ id contacts, Ran scripted ready terms .null steps (before last) id contacts (ended last) := by
  intro steps terms before ended
  exact ⟨rfl, rfl, fun last => execute_ran scripted ready terms .null steps (before last) fun _ => List.cons_ne_nil _ _⟩

-- A registry that takes every call.
def accepting : Transport Unit where
  call c world := (.silent (.ok (.result c.rpcId (.text "0xreceipt"))), world)

theorem accepted_succeeds {contacts : List Contact} {d last : Desk Unit} (played : Plays accepting ready d contacts last) :
    ∀ contact ∈ contacts, contact.succeeds = true := by
  induction contacts generalizing d with
  | nil => exact nofun
  | cons contact rest ih =>
      cases contact with
      | call c answer =>
          obtain ⟨rfl, later⟩ := played
          exact List.forall_mem_cons.mpr ⟨rfl, ih later⟩
      | sign kid transaction answer =>
          obtain ⟨rfl, later⟩ := played
          exact List.forall_mem_cons.mpr ⟨rfl, ih later⟩

end EbsiDid.LedgerSession
