import EbsiDid.Proofs.Ledger.Contact

set_option autoImplicit false

/-!
A write session as a sequence of contacts. For every step the registry builds a transaction, the signer
signs that transaction and the registry takes the signed one; the first contact that fails is the last.
-/
namespace EbsiDid.LedgerSession

variable {τ : Type}

def buildCall (terms : SessionTerms) (id : Value) (step : WriteStep) : RpcCall where
  method := .text step.method.name
  params := .list [step.params]
  rpcId := id
  token := terms.token
  apiOpts := terms.apiOpts

def submitCall (terms : SessionTerms) (id unsigned : Value) (signed : SignedTransaction) : RpcCall where
  method := .text "sendSignedTransaction"
  params := .list [.record [("protocol", .text "eth"), ("unsignedTransaction", unsigned), ("r", signed.r),
    ("s", signed.s), ("v", .text signed.v.display), ("signedRawTransaction", signed.signedRawTransaction)]]
  rpcId := id
  token := terms.token
  apiOpts := terms.apiOpts

-- All that comes back in a step that is worked off. The ids are those that the answers carry.
structure Work where
  buildId : Value
  unsigned : Value
  signed : SignedTransaction
  submitId : Value
  receipt : Value

def Work.contacts (terms : SessionTerms) (id : Value) (step : WriteStep) (w : Work) : List Contact :=
  [.call (buildCall terms id step) (.ok (.result w.buildId w.unsigned)),
   .sign terms.kid w.unsigned (.ok w.signed),
   .call (submitCall terms id w.unsigned w.signed) (.ok (.result w.submitId w.receipt))]

-- The contacts of a step that fails, and the error that the session then ends in. An error of the
-- transport goes through as it is; one of the signer does so only if it is of the signing family.
inductive Stopped (terms : SessionTerms) (id : Value) (step : WriteStep) : List Contact → Error → Prop where
  | buildFault (given payload : Value) :
      Stopped terms id step [.call (buildCall terms id step) (.ok (.fault given payload))]
        (.rpcFault payload step.method.name id)
  | buildRaised (e : Error) : Stopped terms id step [.call (buildCall terms id step) (.error e)] e
  | unsigned (given unsigned : Value) (e : Error) :
      Stopped terms id step [.call (buildCall terms id step) (.ok (.result given unsigned)),
        .sign terms.kid unsigned (.error e)]
        (if e.kind.isA .signing then e else .signingFailed terms.kid.display e)
  | submitFault (given unsigned : Value) (signed : SignedTransaction) (sent payload : Value) :
      Stopped terms id step [.call (buildCall terms id step) (.ok (.result given unsigned)),
        .sign terms.kid unsigned (.ok signed),
        .call (submitCall terms id unsigned signed) (.ok (.fault sent payload))]
        (.rpcFault payload "sendSignedTransaction" id)
  | submitRaised (given unsigned : Value) (signed : SignedTransaction) (e : Error) :
      Stopped terms id step [.call (buildCall terms id step) (.ok (.result given unsigned)),
        .sign terms.kid unsigned (.ok signed), .call (submitCall terms id unsigned signed) (.error e)] e

-- The contacts of a whole session, and how it ends.
inductive Session (terms : SessionTerms) (id : Value) :
    List WriteStep → List Contact → Except Error (List Value) → Prop where
  | done : Session terms id [] [] (.ok [])
  | stopped {step : WriteStep} {rest : List WriteStep} {contacts : List Contact} {e : Error} :
      Stopped terms id step contacts e → Session terms id (step :: rest) contacts (.error e)
  | worked {step : WriteStep} {rest : List WriteStep} {contacts : List Contact} {result : Except Error (List Value)}
      (w : Work) : Session terms id rest contacts result →
      Session terms id (step :: rest) (w.contacts terms id step ++ contacts) (result.map (w.receipt :: ·))

/-! ### What follows for the contacts of a session -/

def workedContacts (terms : SessionTerms) (id : Value) (steps : List WriteStep) (works : List Work) : List Contact :=
  (steps.zip works).flatMap fun pair => pair.2.contacts terms id pair.1

theorem map_returns {α β : Type} (f : α → β) (result : Except Error α) :
    (∃ b, result.map f = .ok b) ↔ ∃ a, result = .ok a := by
  cases result with
  | error e => exact ⟨nofun, nofun⟩
  | ok a => exact ⟨fun _ => ⟨a, rfl⟩, fun _ => ⟨f a, rfl⟩⟩

section Contacts

variable {terms : SessionTerms} {id : Value} {step : WriteStep} {steps : List WriteStep} {contacts : List Contact}
  {result : Except Error (List Value)} {e : Error}

theorem work_succeeds (w : Work) : ∀ contact ∈ w.contacts terms id step, contact.succeeds = true := by
  intro contact member
  simp only [Work.contacts, List.mem_cons, List.not_mem_nil, or_false] at member
  rcases member with rfl | rfl | rfl <;> rfl

-- The contact that stops a session is its last one, and the first that fails.
theorem stopped_split (stopped : Stopped terms id step contacts e) :
    ∃ front last, contacts = front ++ [last] ∧ (∀ contact ∈ front, contact.succeeds = true) ∧
      last.succeeds = false := by
  cases stopped with
  | buildFault given payload => exact ⟨[], _, rfl, nofun, rfl⟩
  | buildRaised e => exact ⟨[], _, rfl, nofun, rfl⟩
  | unsigned given unsigned e =>
      refine ⟨[_], _, rfl, ?_, rfl⟩
      intro contact member
      cases List.mem_singleton.mp member
      rfl
  | submitFault given unsigned signed sent payload =>
      refine ⟨[_, _], _, rfl, ?_, rfl⟩
      intro contact member
      simp only [List.mem_cons, List.not_mem_nil, or_false] at member
      rcases member with rfl | rfl <;> rfl
  | submitRaised given unsigned signed e =>
      refine ⟨[_, _], _, rfl, ?_, rfl⟩
      intro contact member
      simp only [List.mem_cons, List.not_mem_nil, or_false] at member
      rcases member with rfl | rfl <;> rfl

theorem session_first {rest : List WriteStep} (session : Session terms id (step :: rest) contacts result) :
    ∃ answer more, contacts = .call (buildCall terms id step) answer :: more := by
  cases session with
  | stopped stopped => cases stopped <;> exact ⟨_, _, rfl⟩
  | worked w session => exact ⟨_, _, rfl⟩

theorem session_begins {rest : List WriteStep} (session : Session terms id (step :: rest) contacts result) :
    contacts ≠ [] := by
  obtain ⟨answer, more, rfl⟩ := session_first session
  exact List.cons_ne_nil _ _

-- A session that fails has made a call.
theorem session_calls_first (session : Session terms id steps contacts result) (failed : result = .error e) :
    ∃ c answer more, contacts = .call c answer :: more := by
  cases session with
  | done => cases failed
  | stopped stopped => cases stopped <;> exact ⟨_, _, _, rfl⟩
  | worked w session => exact ⟨_, _, _, rfl⟩

theorem session_succeeds_before_last (session : Session terms id steps contacts result) :
    ∀ contact ∈ contacts.dropLast, contact.succeeds = true := by
  induction session with
  | done => exact nofun
  | stopped stopped =>
      obtain ⟨front, last, rfl, succeeded, _⟩ := stopped_split stopped
      rw [List.dropLast_concat]
      exact succeeded
  | @worked step rest contacts result w session ih =>
      intro contact member
      by_cases empty : contacts = []
      · subst empty
        rw [List.append_nil] at member
        exact work_succeeds w contact (List.dropLast_subset _ member)
      · rw [List.dropLast_append_of_ne_nil empty] at member
        cases List.mem_append.mp member with
        | inl here => exact work_succeeds w contact here
        | inr later => exact ih contact later

theorem session_returns_iff (session : Session terms id steps contacts result) :
    (∃ receipts, result = .ok receipts) ↔
      (Contact.calls contacts).length = 2 * steps.length ∧ (Contact.signatures contacts).length = steps.length ∧
        ∀ contact ∈ contacts, contact.succeeds = true := by
  induction session with
  | done => exact ⟨fun _ => ⟨rfl, rfl, nofun⟩, fun _ => ⟨[], rfl⟩⟩
  | stopped stopped =>
      obtain ⟨front, last, rfl, _, failed⟩ := stopped_split stopped
      constructor
      · rintro ⟨receipts, returned⟩
        cases returned
      · rintro ⟨_, _, succeeded⟩
        have last := succeeded last (List.mem_append_right front (List.mem_singleton.mpr rfl))
        rw [failed] at last
        cases last
  | @worked step rest contacts result w session ih =>
      have calls : (Contact.calls (w.contacts terms id step ++ contacts)).length = (Contact.calls contacts).length + 2 := by
        rw [Contact.calls_append, List.length_append, Nat.add_comm]
        rfl
      have signatures : (Contact.signatures (w.contacts terms id step ++ contacts)).length =
          (Contact.signatures contacts).length + 1 := by
        rw [Contact.signatures_append, List.length_append, Nat.add_comm]
        rfl
      rw [map_returns, ih, calls, signatures, List.length_cons, List.forall_mem_append]
      constructor
      · rintro ⟨sameCalls, sameSignatures, succeeded⟩
        exact ⟨by omega, by omega, work_succeeds w, succeeded⟩
      · rintro ⟨sameCalls, sameSignatures, _, succeeded⟩
        exact ⟨by omega, by omega, succeeded⟩

theorem session_receipts {receipts : List Value} (session : Session terms id steps contacts (.ok receipts)) :
    ∃ works : List Work, works.length = steps.length ∧ contacts = workedContacts terms id steps works ∧
      receipts = works.map Work.receipt := by
  generalize ended : (Except.ok receipts : Except Error (List Value)) = result at session
  induction session generalizing receipts with
  | done =>
      cases ended
      exact ⟨[], rfl, rfl, rfl⟩
  | stopped => cases ended
  | @worked step rest contacts result w session ih =>
      cases result with
      | error e => cases ended
      | ok more =>
          cases ended
          obtain ⟨works, many, rfl, rfl⟩ := ih rfl
          exact ⟨w :: works, congrArg (· + 1) many, rfl, rfl⟩

theorem session_failure (session : Session terms id steps contacts (.error e)) :
    ∃ done step undone works tail, steps = done ++ step :: undone ∧ works.length = done.length ∧
      contacts = workedContacts terms id done works ++ tail ∧ Stopped terms id step tail e := by
  generalize ended : (Except.error e : Except Error (List Value)) = result at session
  induction session with
  | done => cases ended
  | @stopped step rest contacts other stopped =>
      cases ended
      exact ⟨[], step, rest, [], contacts, rfl, rfl, rfl, stopped⟩
  | @worked step rest contacts result w session ih =>
      cases result with
      | ok more => cases ended
      | error other =>
          cases ended
          obtain ⟨done, last, undone, works, tail, rfl, many, rfl, stopped⟩ := ih rfl
          refine ⟨step :: done, last, undone, w :: works, tail, rfl, congrArg (· + 1) many, ?_, stopped⟩
          exact (List.append_assoc _ _ _).symm

-- A session comes to its end as long as no contact fails.
theorem session_finishes (session : Session terms id steps contacts result)
    (succeeded : ∀ contact ∈ contacts, contact.succeeds = true) : ∃ receipts, result = .ok receipts := by
  cases result with
  | ok receipts => exact ⟨receipts, rfl⟩
  | error e =>
      obtain ⟨done, step, undone, works, tail, _, _, rfl, stopped⟩ := session_failure session
      obtain ⟨front, last, rfl, _, failed⟩ := stopped_split stopped
      have taken := succeeded last (by simp)
      rw [failed] at taken
      cases taken

theorem stopped_calls {c : RpcCall} (stopped : Stopped terms id step contacts e) (member : c ∈ Contact.calls contacts) :
    c = buildCall terms id step ∨ ∃ unsigned signed, c = submitCall terms id unsigned signed := by
  cases stopped with
  | buildFault given payload => exact .inl (List.mem_singleton.mp member)
  | buildRaised e => exact .inl (List.mem_singleton.mp member)
  | unsigned given unsigned e => exact .inl (List.mem_singleton.mp member)
  | submitFault given unsigned signed sent payload =>
      cases member with
      | head => exact .inl rfl
      | tail _ later => exact .inr ⟨unsigned, signed, List.mem_singleton.mp later⟩
  | submitRaised given unsigned signed e =>
      cases member with
      | head => exact .inl rfl
      | tail _ later => exact .inr ⟨unsigned, signed, List.mem_singleton.mp later⟩

theorem session_calls {c : RpcCall} (session : Session terms id steps contacts result)
    (member : c ∈ Contact.calls contacts) :
    (∃ step ∈ steps, c = buildCall terms id step) ∨ ∃ unsigned signed, c = submitCall terms id unsigned signed := by
  induction session with
  | done => cases member
  | @stopped step rest contacts e stopped =>
      cases stopped_calls stopped member with
      | inl built => exact .inl ⟨step, List.mem_cons_self, built⟩
      | inr submitted => exact .inr submitted
  | @worked step rest contacts result w session ih =>
      rw [Contact.calls_append] at member
      cases List.mem_append.mp member with
      | inl here =>
          cases here with
          | head => exact .inl ⟨step, List.mem_cons_self, rfl⟩
          | tail _ later => exact .inr ⟨w.unsigned, w.signed, List.mem_singleton.mp later⟩
      | inr later =>
          cases ih later with
          | inl built =>
              obtain ⟨other, among, same⟩ := built
              exact .inl ⟨other, List.mem_cons_of_mem step among, same⟩
          | inr submitted => exact .inr submitted

theorem session_builds {c : RpcCall} (session : Session terms id steps contacts result)
    (member : c ∈ Contact.calls contacts) (building : c.method ≠ .text "sendSignedTransaction") :
    ∃ step ∈ steps, c = buildCall terms id step := by
  cases session_calls session member with
  | inl built => exact built
  | inr submitted =>
      obtain ⟨unsigned, signed, rfl⟩ := submitted
      exact absurd rfl building

theorem session_signatures {signature : Value × Value} (session : Session terms id steps contacts result)
    (member : signature ∈ Contact.signatures contacts) : signature.1 = terms.kid := by
  induction session with
  | done => cases member
  | stopped stopped =>
      cases stopped with
      | buildFault given payload => cases member
      | buildRaised e => cases member
      | unsigned given unsigned e =>
          cases List.mem_singleton.mp member
          rfl
      | submitFault given unsigned signed sent payload =>
          cases List.mem_singleton.mp member
          rfl
      | submitRaised given unsigned signed e =>
          cases List.mem_singleton.mp member
          rfl
  | worked w session ih =>
      rw [Contact.signatures_append] at member
      cases List.mem_append.mp member with
      | inl here =>
          cases List.mem_singleton.mp here
          rfl
      | inr later => exact ih later

-- Seen by any property that all submissions share, the calls are those of the steps in order, up to some point.
theorem session_calls_prefix {γ : Type} (view : RpcCall → γ) (submission : γ)
    (uniform : ∀ unsigned signed, view (submitCall terms id unsigned signed) = submission)
    (session : Session terms id steps contacts result) :
    (Contact.calls contacts).map view <+:
      steps.flatMap fun step => [view (buildCall terms id step), submission] := by
  induction session with
  | done => exact List.prefix_rfl
  | @stopped step rest contacts e stopped =>
      rw [List.flatMap_cons]
      refine List.IsPrefix.trans ?_ (List.prefix_append _ _)
      cases stopped with
      | buildFault given payload => exact ⟨[submission], rfl⟩
      | buildRaised e => exact ⟨[submission], rfl⟩
      | unsigned given unsigned e => exact ⟨[submission], rfl⟩
      | submitFault given unsigned signed sent payload =>
          rw [← uniform unsigned signed]
          exact List.prefix_rfl
      | submitRaised given unsigned signed e =>
          rw [← uniform unsigned signed]
          exact List.prefix_rfl
  | @worked step rest contacts result w session ih =>
      have here : (Contact.calls (w.contacts terms id step)).map view = [view (buildCall terms id step), submission] := by
        rw [← uniform w.unsigned w.signed]
        rfl
      rw [Contact.calls_append, List.map_append, here, List.flatMap_cons]
      exact (List.prefix_append_right_inj _).mpr ih

end Contacts

end EbsiDid.LedgerSession
