import EbsiDid.Proofs.Ledger.Execution
import EbsiDid.Registrar.Perform

set_option autoImplicit false

/-!
Writing to the registry: the steps and the address have to be there before the session begins, and
nothing outside is touched until then.
-/
namespace EbsiDid

namespace Act

variable {τ α β : Type}

theorem of_except_bind_ok (a : α) (f : α → Act τ β) (d : Desk τ) : (ofExcept (.ok a) >>= f) d = f a d := rfl

theorem of_except_bind_error (e : Error) (f : α → Act τ β) (d : Desk τ) :
    ((ofExcept (.error e) : Act τ α) >>= f) d = ⟨.error e, [], d⟩ := rfl

end Act

namespace Trace

theorem applied_to_append (a b : Trace) (i : Identifier) : appliedTo (a ++ b) i = appliedTo b (appliedTo a i) :=
  List.foldl_append

theorem applied_to_lines (log : Log) (i : Identifier) : appliedTo (log.map Event.line) i = i := by
  induction log with
  | nil => rfl
  | cons line rest ih => exact ih

end Trace

/-! ### Actions that append nothing to an identifier -/

namespace Act

variable {τ α β : Type}

def Spares (x : Act τ α) : Prop := ∀ d i, (x d).trace.appliedTo i = i

theorem spares_pure (a : α) : Spares (pure a : Act τ α) := fun _ _ => rfl

theorem spares_fail (e : Error) : Spares (fail e : Act τ α) := fun _ _ => rfl

theorem spares_of_except (r : Except Error α) : Spares (ofExcept r : Act τ α) := fun _ _ => rfl

theorem spares_draw (f : RandomStream → Except Error α × RandomStream) : Spares (draw f : Act τ α) := fun _ _ => rfl

theorem spares_log (level : Level) (text : String) : Spares (log level text : Act τ Unit) := fun _ _ => rfl

theorem spares_bind {x : Act τ α} {f : α → Act τ β} (first : Spares x) (rest : ∀ a, Spares (f a)) : Spares (x >>= f) := by
  intro d i
  cases outcome : (x d).result with
  | error e =>
      rw [bind_of_error outcome]
      exact first d i
  | ok a =>
      rw [bind_of_ok outcome, Trace.applied_to_append, first d i]
      exact rest a (x d).desk i

theorem spares_on_error {x : Act τ α} {handler : Error → Act τ Unit} (first : Spares x) (handled : ∀ e, Spares (handler e)) :
    Spares (onError x handler) := by
  intro d i
  simp only [onError]
  split
  · exact first d i
  · rename_i e _
    have both : Trace.appliedTo ((x d).trace ++ (handler e (x d).desk).trace) i = i := by
      rw [Trace.applied_to_append, first d i]
      exact handled e (x d).desk i
    split <;> exact both

theorem spares_map_error (f : Error → Error) {x : Act τ α} (inner : Spares x) : Spares (mapError f x) := inner

-- What an action becomes if its success is noted by one event.
theorem noted_run (x : Act τ α) (event : Event) (quiet : event.request? = none) (f : α → β) (d : Desk τ) :
    let ended := (x >>= fun a => record event >>= fun _ => Pure.pure (f a)) d
    ended.result = (x d).result.map f ∧ ended.trace.requests = (x d).trace.requests ∧ ended.desk = (x d).desk := by
  intro ended
  cases outcome : (x d).result with
  | error e =>
      have run : ended = _ := bind_of_error outcome
      rw [run]
      exact ⟨rfl, rfl, rfl⟩
  | ok a =>
      have run : ended = ⟨.ok (f a), (x d).trace ++ [event], (x d).desk⟩ := bind_of_ok outcome
      have silent : Trace.requests [event] = [] := List.filterMap_cons_none quiet
      rw [run]
      refine ⟨rfl, ?_, rfl⟩
      rw [Trace.requests_append, silent, List.append_nil]

theorem noted_applied {x : Act τ α} (spares : x.Spares) (event : Event) (f : α → β) (d : Desk τ) (i : Identifier) :
    let ended := (x >>= fun a => record event >>= fun _ => Pure.pure (f a)) d
    (∀ b, ended.result = .ok b → ended.trace.appliedTo i = event.appliedTo i) ∧
      ∀ e, ended.result = .error e → ended.trace.appliedTo i = i := by
  intro ended
  cases outcome : (x d).result with
  | error e =>
      have run : ended = _ := bind_of_error outcome
      rw [run]
      exact ⟨nofun, fun _ _ => spares d i⟩
  | ok a =>
      have run : ended = ⟨.ok (f a), (x d).trace ++ [event], (x d).desk⟩ := bind_of_ok outcome
      rw [run]
      refine ⟨fun _ _ => ?_, nofun⟩
      rw [Trace.applied_to_append, spares d i]
      rfl

theorem spares_call (t : Transport τ) (c : RpcCall) : Spares (call t c) := fun _ i => Trace.applied_to_lines _ i

theorem spares_sign (s : Signer τ) (kid transaction : Value) : Spares (sign s kid transaction) := by
  intro d i
  rw [sign_trace]
  rfl

end Act

namespace LedgerSession

variable {τ : Type}

theorem spares_move (current next : Phase) (method : Option RpcMethod) : (move current next method : Act τ Unit).Spares :=
  fun _ _ => rfl

theorem spares_during {α : Type} (p : Position) (current : Phase) {x : Act τ α} (inner : x.Spares) :
    (during p current x).Spares := by
  refine Act.spares_on_error inner ?_
  intro e
  unfold abort
  split
  · exact Act.spares_bind (spares_move _ _ _) fun _ => Act.spares_log _ _
  · exact Act.spares_pure ()

theorem spares_invoke (t : Transport τ) (terms : SessionTerms) (id : Value) (method : RpcMethod) (params : Value) :
    (invoke t terms id method params).Spares := by
  refine Act.spares_bind (Act.spares_call t _) ?_
  intro outcome
  cases outcome with
  | result given value => exact Act.spares_pure value
  | fault given payload => exact Act.spares_fail _

theorem spares_run_step (t : Transport τ) (s : Signer τ) (terms : SessionTerms) (id : Value) (p : Position)
    (current : Phase) (params : Value) : (runStep t s terms id p current params).Spares := by
  refine Act.spares_bind (spares_move _ _ _) fun _ => ?_
  refine Act.spares_bind (spares_during _ _ (spares_invoke _ _ _ _ _)) fun unsigned => ?_
  refine Act.spares_bind (spares_move _ _ _) fun _ => ?_
  refine Act.spares_bind (spares_during _ _ (Act.spares_map_error _ (Act.spares_sign _ _ _))) fun signed => ?_
  refine Act.spares_bind (spares_move _ _ _) fun _ => ?_
  refine Act.spares_bind (spares_during _ _ (spares_invoke _ _ _ _ _)) fun receipt => ?_
  exact Act.spares_bind (spares_move _ _ _) fun _ => Act.spares_pure receipt

theorem spares_run_steps (t : Transport τ) (s : Signer τ) (terms : SessionTerms) (id : Value) (count : Nat)
    (steps : List WriteStep) (index : Nat) (current : Phase) : (runSteps t s terms id count index current steps).Spares := by
  induction steps generalizing index current with
  | nil => exact Act.spares_bind (spares_move _ _ _) fun _ => Act.spares_pure []
  | cons step rest ih =>
      refine Act.spares_bind (spares_run_step _ _ _ _ _ _ _) fun receipt => ?_
      exact Act.spares_bind (ih (index + 1) .stepComplete) fun receipts => Act.spares_pure (receipt :: receipts)

theorem spares_execute (t : Transport τ) (s : Signer τ) (terms : SessionTerms) (given : Value) (steps : List WriteStep) :
    (execute t s terms given steps).Spares := by
  refine Act.spares_bind ?_ fun id => spares_run_steps t s terms id steps.length steps 0 .idle
  unfold chooseRpcId
  split
  · exact Act.spares_draw _
  · exact Act.spares_pure _

end LedgerSession

namespace EbsiRegistrar

variable {τ : Type}

-- Why a session does not begin, if the steps are there.
inductive Unready (reg : EbsiRegistrar) (options : Record) (d : Desk τ) : Prop where
  | address (e : Error) : reg.addressOptions options = .error e → Unready reg options d
  | rpcIds : options.get "rpc_id" = .null → d.random.rpcIds = [] → Unready reg options d

theorem spares_write (reg : EbsiRegistrar) (p : Partners τ) (kid : Value) (options : Record)
    (steps : Except Error (List WriteStep)) : (reg.write p kid options steps).Spares := by
  refine Act.spares_bind (Act.spares_of_except steps) fun steps => ?_
  refine Act.spares_bind (Act.spares_of_except _) fun apiOpts => ?_
  exact LedgerSession.spares_execute _ _ _ _ steps

theorem write_unbuilt (reg : EbsiRegistrar) (p : Partners τ) (kid : Value) (options : Record) (d : Desk τ) (e : Error) :
    reg.write p kid options (.error e) d = ⟨.error e, [], d⟩ := rfl

theorem write_unready {reg : EbsiRegistrar} {options : Record} {d : Desk τ} (unready : Unready reg options d)
    (p : Partners τ) (kid : Value) (steps : List WriteStep) :
    ∃ e, reg.write p kid options (.ok steps) d = ⟨.error e, [], d⟩ := by
  cases address : reg.addressOptions options with
  | error e =>
      refine ⟨e, ?_⟩
      rw [write, Act.of_except_bind_ok, address, Act.of_except_bind_error]
  | ok apiOpts =>
      cases unready with
      | address e failed =>
          rw [address] at failed
          cases failed
      | rpcIds absent empty =>
          refine ⟨.noRpcIds, ?_⟩
          rw [write, Act.of_except_bind_ok, address, Act.of_except_bind_ok, absent]
          exact LedgerSession.execute_without_id _ _ _ _ _ empty

theorem write_session {reg : EbsiRegistrar} {options : Record} {d : Desk τ} (ready : ¬ Unready reg options d)
    (p : Partners τ) (kid : Value) (steps : List WriteStep) :
    let written := reg.write p kid options (.ok steps) d
    ∃ terms id contacts, terms.kid = kid ∧
      Plays p.transport p.signer { d with random := written.desk.random } contacts written.desk ∧
      written.trace.requests = contacts.map Contact.request ∧
      LedgerSession.Session terms id steps contacts written.result := by
  intro written
  cases address : reg.addressOptions options with
  | error e => exact absurd (.address e address) ready
  | ok apiOpts =>
      have run : written = LedgerSession.execute p.transport p.signer ⟨kid, options.get "bearer_token", apiOpts⟩
          (options.get "rpc_id") steps d := by
        change reg.write p kid options (.ok steps) d = _
        rw [write, Act.of_except_bind_ok, address, Act.of_except_bind_ok]
      have available : options.get "rpc_id" = .null → d.random.rpcIds ≠ [] := fun absent empty =>
        ready (.rpcIds absent empty)
      obtain ⟨id, rest, contacts, _, played, requested, session⟩ := LedgerSession.execute_session p.transport p.signer
        ⟨kid, options.get "bearer_token", apiOpts⟩ (options.get "rpc_id") steps d available
      obtain ⟨drawn, _⟩ := plays_keys played
      rw [run]
      refine ⟨⟨kid, options.get "bearer_token", apiOpts⟩, id, contacts, rfl, ?_, requested, session⟩
      rw [drawn]
      exact played

theorem write_cases (reg : EbsiRegistrar) (p : Partners τ) (kid : Value) (options : Record) (steps : List WriteStep)
    (d : Desk τ) :
    let written := reg.write p kid options (.ok steps) d
    (∃ e, written = ⟨.error e, [], d⟩ ∧ Unready reg options d) ∨
      ∃ terms id contacts, terms.kid = kid ∧
        Plays p.transport p.signer { d with random := written.desk.random } contacts written.desk ∧
        written.trace.requests = contacts.map Contact.request ∧
        LedgerSession.Session terms id steps contacts written.result := by
  by_cases unready : Unready reg options d
  · obtain ⟨e, run⟩ := write_unready unready p kid steps
    exact .inl ⟨e, run, unready⟩
  · exact .inr (write_session unready p kid steps)

-- The first step is built as soon as the session begins.
theorem write_begins {reg : EbsiRegistrar} {options : Record} {d : Desk τ} (ready : ¬ Unready reg options d)
    (p : Partners τ) (kid : Value) (step : WriteStep) (rest : List WriteStep) :
    ∃ terms id, .call (LedgerSession.buildCall terms id step) ∈
      (reg.write p kid options (.ok (step :: rest)) d).trace.requests := by
  obtain ⟨terms, id, contacts, _, _, requested, session⟩ := write_session ready p kid (step :: rest)
  obtain ⟨answer, more, rfl⟩ := LedgerSession.session_first session
  refine ⟨terms, id, ?_⟩
  rw [requested]
  exact List.mem_cons_self

-- A call of a session that is no submission builds one of its steps.
theorem write_builds {reg : EbsiRegistrar} {p : Partners τ} {kid : Value} {options : Record}
    {steps : Except Error (List WriteStep)} {d : Desk τ} {c : RpcCall}
    (asked : .call c ∈ (reg.write p kid options steps d).trace.requests)
    (building : c.method ≠ .text "sendSignedTransaction") :
    ∃ list terms id, steps = .ok list ∧ ∃ step ∈ list, c = LedgerSession.buildCall terms id step := by
  cases steps with
  | error e => cases asked
  | ok list =>
      obtain ⟨e, run, _⟩ | ⟨terms, id, contacts, _, _, requested, session⟩ := write_cases reg p kid options list d
      · rw [run] at asked
        cases asked
      · rw [requested, ← Contact.mem_calls] at asked
        exact ⟨list, terms, id, rfl, LedgerSession.session_builds session asked building⟩

end EbsiRegistrar
end EbsiDid
