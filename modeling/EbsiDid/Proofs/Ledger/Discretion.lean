import EbsiDid.Proofs.Ledger.Contact
import EbsiDid.Proofs.Rpc.Authorization

set_option autoImplicit false

/-!
Discretion about the bearer token. Two runs are compared of which the second has another token. An action
is discreet if this changes the Authorization headers and nothing else, as long as the network answers
the same.
-/
namespace EbsiDid

/-! ### Desks of two runs -/

section

variable {ν ν' σ : Type}

-- All is the same but the network and what was sent to it.
structure Desk.Alike (d : Desk (Connection ν × σ)) (d' : Desk (Connection ν' × σ)) : Prop where
  random : d'.random = d.random
  keys : d'.keys = d.keys
  client : d'.outside.1.client = d.outside.1.client
  sessions : d'.outside.1.sessions = d.outside.1.sessions
  beside : d'.outside.2 = d.outside.2

-- From the one desk to the other these requests go out, in this order.
structure Sends (net : Network ν) (d : Desk (Connection ν × σ)) (requests : List HttpRequest)
    (last : Desk (Connection ν × σ)) : Prop where
  sent : last.outside.1.sent = d.outside.1.sent ++ requests
  network : last.outside.1.network = net.after requests d.outside.1.network

theorem sends_append {net : Network ν} {d mid last : Desk (Connection ν × σ)} {a b : List HttpRequest}
    (first : Sends net d a mid) (second : Sends net mid b last) : Sends net d (a ++ b) last := by
  constructor
  · rw [second.sent, first.sent, List.append_assoc]
  · rw [second.network, first.network, Network.after_append]

theorem sends_nothing {net : Network ν} {d last : Desk (Connection ν × σ)} (apart : last.outside.1 = d.outside.1) :
    Sends net d [] last := by
  constructor
  · rw [apart, List.append_nil]
  · rw [apart]
    rfl

-- The second run against the first: what has gone out in the one, and in the other with its token.
structure Unaltered {α : Type} (net' : Network ν') (token : Value) (requests : List HttpRequest)
    (d' : Desk (Connection ν' × σ)) (first : Ended (Connection ν × σ) α) (second : Ended (Connection ν' × σ) α) : Prop where
  sends : Sends net' d' (requests.map (HttpRequest.carrying token)) second.desk
  result : second.result = first.result
  trace : second.trace = first.trace.carrying token
  desks : first.desk.Alike second.desk

end

/-! ### Discreet actions -/

namespace Act

variable {ν ν' σ α β : Type} {net : Network ν} {net' : Network ν'} {token : Value}

-- The actions of two runs, of which the second has the token.
def Discreet (net : Network ν) (net' : Network ν') (token : Value) (x : Act (Connection ν × σ) α)
    (y : Act (Connection ν' × σ) α) : Prop :=
  ∀ d, ∃ requests, Sends net d requests (x d).desk ∧ ∀ d', d.Alike d' →
    Network.Alike net net' token requests d.outside.1.network d'.outside.1.network →
      Unaltered net' token requests d' (x d) (y d')

-- Nothing goes out.
theorem discreet_apart {x : Act (Connection ν × σ) α} {y : Act (Connection ν' × σ) α}
    (first : ∀ d, (x d).desk.outside.1 = d.outside.1) (second : ∀ d', (y d').desk.outside.1 = d'.outside.1)
    (same : ∀ d d', d.Alike d' → (y d').result = (x d).result ∧ (y d').trace = (x d).trace.carrying token ∧
      (x d).desk.Alike (y d').desk) : Discreet net net' token x y := by
  intro d
  refine ⟨[], sends_nothing (first d), ?_⟩
  intro d' alike _
  obtain ⟨result, trace, desks⟩ := same d d' alike
  exact ⟨sends_nothing (second d'), result, trace, desks⟩

theorem discreet_of_except (r : Except Error α) : Discreet (σ := σ) net net' token (ofExcept r) (ofExcept r) :=
  discreet_apart (fun _ => rfl) (fun _ => rfl) fun _ _ alike => ⟨rfl, rfl, alike⟩

theorem discreet_pure (a : α) : Discreet (σ := σ) net net' token (pure a) (pure a) := discreet_of_except (.ok a)

theorem discreet_fail (e : Error) : Discreet (σ := σ) (α := α) net net' token (fail e) (fail e) :=
  discreet_of_except (.error e)

theorem discreet_record {e : Event} (uncalled : e.carrying token = e) :
    Discreet (σ := σ) net net' token (record e) (record e) := by
  refine discreet_apart (fun _ => rfl) (fun _ => rfl) ?_
  intro d d' alike
  refine ⟨rfl, ?_, alike⟩
  change [e] = [e.carrying token]
  rw [uncalled]

theorem discreet_log (level : Level) (text : String) : Discreet (σ := σ) net net' token (log level text) (log level text) :=
  discreet_record rfl

theorem discreet_draw (f : RandomStream → Except Error α × RandomStream) :
    Discreet (σ := σ) net net' token (draw f) (draw f) := by
  refine discreet_apart (fun _ => rfl) (fun _ => rfl) ?_
  intro d d' alike
  have drawn : f d'.random = f d.random := congrArg f alike.random
  exact ⟨congrArg Prod.fst drawn, rfl, congrArg Prod.snd drawn, alike.keys, alike.client, alike.sessions, alike.beside⟩

theorem discreet_import_key (key : ImportableKey) :
    Discreet (σ := σ) net net' token (importKey key) (importKey key) := by
  refine discreet_apart (fun _ => rfl) (fun _ => rfl) ?_
  intro d d' alike
  have imported : d'.keys.importKey key = d.keys.importKey key := congrArg (KeyManager.importKey · key) alike.keys
  refine ⟨congrArg (fun ended => ended.1.result) imported, ?_, alike.random, congrArg Prod.snd imported, alike.client,
    alike.sessions, alike.beside⟩
  simp only [importKey, imported]
  rw [Trace.carrying_append, Trace.carrying_lines]
  cases (d.keys.importKey key).1.result <;> rfl

theorem discreet_sign (s : Signer σ) (kid transaction : Value) :
    Discreet net net' token (sign s.beside kid transaction) (sign s.beside kid transaction) := by
  cases s with
  | keyManager =>
      refine discreet_apart (fun _ => rfl) (fun _ => rfl) ?_
      intro d d' alike
      have signed : d'.keys.sign kid transaction = d.keys.sign kid transaction :=
        congrArg (KeyManager.sign · kid transaction) alike.keys
      exact ⟨congrArg Prod.fst signed, rfl, alike.random, congrArg Prod.snd signed, alike.client, alike.sessions,
        alike.beside⟩
  | outside sign =>
      refine discreet_apart (fun _ => rfl) (fun _ => rfl) ?_
      intro d d' alike
      have signed : sign kid transaction d'.outside.2 = sign kid transaction d.outside.2 :=
        congrArg (sign kid transaction) alike.beside
      exact ⟨congrArg Prod.fst signed, rfl, alike.random, alike.keys, alike.client, alike.sessions,
        congrArg Prod.snd signed⟩

theorem discreet_bind {x : Act (Connection ν × σ) α} {y : Act (Connection ν' × σ) α} {f : α → Act (Connection ν × σ) β}
    {g : α → Act (Connection ν' × σ) β} (first : Discreet net net' token x y)
    (rest : ∀ a, Discreet net net' token (f a) (g a)) : Discreet net net' token (x >>= f) (y >>= g) := by
  intro d
  obtain ⟨requests, sends, unaltered⟩ := first d
  cases outcome : (x d).result with
  | error e =>
      rw [bind_of_error outcome]
      refine ⟨requests, sends, ?_⟩
      intro d' alike answered
      obtain ⟨sends', result, trace, desks⟩ := unaltered d' alike answered
      rw [bind_of_error (result.trans outcome)]
      exact ⟨sends', rfl, trace, desks⟩
  | ok a =>
      rw [bind_of_ok outcome]
      obtain ⟨more, further, unaltered_more⟩ := rest a (x d).desk
      refine ⟨requests ++ more, sends_append sends further, ?_⟩
      intro d' alike answered
      obtain ⟨answered_first, answered_more⟩ := Network.alike_append answered
      obtain ⟨sends', result, trace, desks⟩ := unaltered d' alike answered_first
      rw [← sends.network, ← sends'.network] at answered_more
      obtain ⟨further', result_more, trace_more, desks_more⟩ := unaltered_more (y d').desk desks answered_more
      rw [bind_of_ok (result.trans outcome)]
      refine ⟨?_, result_more, ?_, desks_more⟩
      · rw [List.map_append]
        exact sends_append sends' further'
      · rw [trace, trace_more, Trace.carrying_append]

theorem discreet_map_error (f : Error → Error) {x : Act (Connection ν × σ) α} {y : Act (Connection ν' × σ) α}
    (inner : Discreet net net' token x y) : Discreet net net' token (mapError f x) (mapError f y) := by
  intro d
  obtain ⟨requests, sends, unaltered⟩ := inner d
  refine ⟨requests, sends, ?_⟩
  intro d' alike answered
  obtain ⟨sends', result, trace, desks⟩ := unaltered d' alike answered
  exact ⟨sends', congrArg (Except.mapError f) result, trace, desks⟩

-- Ends in a value even where the action fails.
def attempt {τ : Type} (x : Act τ α) : Act τ (Except Error α) := fun d => ⟨.ok (x d).result, (x d).trace, (x d).desk⟩

def settle {τ : Type} (handler : Error → Act τ Unit) : Except Error α → Act τ α
  | .ok a => pure a
  | .error e => handler e >>= fun _ => fail e

theorem on_error_attempt {τ : Type} (x : Act τ α) (handler : Error → Act τ Unit) :
    onError x handler = attempt x >>= settle handler := by
  funext d
  rw [bind_of_ok (show (attempt x d).result = .ok (x d).result from rfl)]
  change onError x handler d = ⟨(settle handler (x d).result (x d).desk).result,
    (x d).trace ++ (settle handler (x d).result (x d).desk).trace, (settle handler (x d).result (x d).desk).desk⟩
  cases ends : (x d).result with
  | ok a =>
      simp only [onError, ends]
      change x d = ⟨.ok a, (x d).trace ++ [], (x d).desk⟩
      rw [List.append_nil, ← ends]
  | error e =>
      simp only [onError, ends, settle]
      cases handled : (handler e (x d).desk).result with
      | ok _ =>
          rw [bind_of_ok handled]
          change _ = (⟨.error e, (x d).trace ++ ((handler e (x d).desk).trace ++ []), (handler e (x d).desk).desk⟩ :
            Ended τ α)
          rw [List.append_nil]
      | error other => rw [bind_of_error handled]

theorem discreet_on_error {x : Act (Connection ν × σ) α} {y : Act (Connection ν' × σ) α}
    {handler : Error → Act (Connection ν × σ) Unit} {handler' : Error → Act (Connection ν' × σ) Unit}
    (inner : Discreet net net' token x y) (handled : ∀ e, Discreet net net' token (handler e) (handler' e)) :
    Discreet net net' token (onError x handler) (onError y handler') := by
  have attempted : Discreet net net' token (attempt x) (attempt y) := by
    intro d
    obtain ⟨requests, sends, unaltered⟩ := inner d
    refine ⟨requests, sends, ?_⟩
    intro d' alike answered
    obtain ⟨sends', result, trace, desks⟩ := unaltered d' alike answered
    exact ⟨sends', congrArg Except.ok result, trace, desks⟩
  rw [on_error_attempt, on_error_attempt]
  refine discreet_bind attempted ?_
  intro r
  cases r with
  | ok a => exact discreet_pure a
  | error e => exact discreet_bind (handled e) fun _ => discreet_fail e

theorem discreet_call (k : RpcCall) : Discreet (σ := σ) net net' token (call (Transport.line net) k)
    (call (Transport.line net') (k.carrying token)) := by
  intro d
  cases posted : d.outside.1.posted k with
  | error e =>
      have unsent : call (Transport.line net) k d = ⟨.error e, [.called k], d⟩ := by
        simp only [call, Transport.line, Connection.call_unposted posted]
        rfl
      rw [unsent]
      refine ⟨[], sends_nothing rfl, ?_⟩
      intro d' alike _
      have posted' : d'.outside.1.posted (k.carrying token) = .error e := by
        rw [← posted, Connection.posted, alike.client]
        rfl
      have unsent' : call (Transport.line net') (k.carrying token) d' = ⟨.error e, [.called (k.carrying token)], d'⟩ := by
        simp only [call, Transport.line, Connection.call_unposted posted']
        rfl
      rw [unsent']
      exact ⟨sends_nothing rfl, rfl, rfl, alike⟩
  | ok post =>
      obtain ⟨url, params⟩ := post
      refine ⟨[d.outside.1.request k url params], ?_, ?_⟩
      · simp only [call, Transport.line, Connection.call_posted posted]
        exact ⟨rfl, rfl⟩
      · intro d' alike answered
        have posted' : d'.outside.1.posted (k.carrying token) = .ok (url, params) := by
          rw [← posted, Connection.posted, alike.client]
          rfl
        have requested := Connection.request_carrying alike.client alike.sessions token k url params
        have same := (List.cons.inj answered).1
        rw [← requested] at same
        obtain ⟨_, client, sessions⟩ := Connection.open_session_alike alike.client alike.sessions
        simp only [call, Transport.line, Connection.call_posted posted, Connection.call_posted posted', same]
        refine ⟨⟨?_, ?_⟩, rfl, ?_, alike.random, alike.keys, client, sessions, alike.beside⟩
        · exact congrArg (fun r => d'.outside.1.sent ++ [r]) requested
        · exact congrArg (fun r => (net'.exchange r d'.outside.1.network).2) requested
        · exact congrArg (Event.called (k.carrying token) :: ·) (Trace.carrying_lines token _).symm

end Act

namespace LedgerSession

variable {ν ν' σ : Type} {net : Network ν} {net' : Network ν'} {token : Value}

theorem discreet_move (current next : Phase) (method : Option RpcMethod) :
    Act.Discreet (σ := σ) net net' token (move current next method) (move current next method) :=
  Act.discreet_record rfl

theorem discreet_during {α : Type} (p : Position) (current : Phase) {x : Act (Connection ν × σ) α}
    {y : Act (Connection ν' × σ) α} (inner : Act.Discreet net net' token x y) :
    Act.Discreet net net' token (during p current x) (during p current y) := by
  refine Act.discreet_on_error inner ?_
  intro e
  unfold abort
  split
  · exact Act.discreet_bind (discreet_move _ _ _) fun _ => Act.discreet_log _ _
  · exact Act.discreet_pure ()

theorem discreet_invoke (terms : SessionTerms) (id : Value) (method : RpcMethod) (params : Value) :
    Act.Discreet (σ := σ) net net' token (invoke (Transport.line net) terms id method params)
      (invoke (Transport.line net') { terms with token := token } id method params) := by
  refine Act.discreet_bind (Act.discreet_call _) ?_
  intro outcome
  cases outcome with
  | result given value => exact Act.discreet_pure value
  | fault given payload => exact Act.discreet_fail _

theorem discreet_run_step (s : Signer σ) (terms : SessionTerms) (id : Value) (p : Position) (current : Phase)
    (params : Value) : Act.Discreet net net' token
      (runStep (Transport.line net) s.beside terms id p current params)
      (runStep (Transport.line net') s.beside { terms with token := token } id p current params) := by
  refine Act.discreet_bind (discreet_move _ _ _) fun _ => ?_
  refine Act.discreet_bind (discreet_during _ _ (discreet_invoke _ _ _ _)) fun unsigned => ?_
  refine Act.discreet_bind (discreet_move _ _ _) fun _ => ?_
  refine Act.discreet_bind (discreet_during _ _ (Act.discreet_map_error _ (Act.discreet_sign s _ _))) fun signed => ?_
  refine Act.discreet_bind (discreet_move _ _ _) fun _ => ?_
  refine Act.discreet_bind (discreet_during _ _ (discreet_invoke _ _ _ _)) fun receipt => ?_
  exact Act.discreet_bind (discreet_move _ _ _) fun _ => Act.discreet_pure receipt

theorem discreet_run_steps (s : Signer σ) (terms : SessionTerms) (id : Value) (count : Nat) (steps : List WriteStep)
    (index : Nat) (current : Phase) : Act.Discreet net net' token
      (runSteps (Transport.line net) s.beside terms id count index current steps)
      (runSteps (Transport.line net') s.beside { terms with token := token } id count index current steps) := by
  induction steps generalizing index current with
  | nil => exact Act.discreet_bind (discreet_move _ _ _) fun _ => Act.discreet_pure []
  | cons step rest ih =>
      refine Act.discreet_bind (discreet_run_step s _ _ _ _ _) fun receipt => ?_
      exact Act.discreet_bind (ih (index + 1) .stepComplete) fun receipts => Act.discreet_pure (receipt :: receipts)

theorem discreet_execute (s : Signer σ) (terms : SessionTerms) (given : Value) (steps : List WriteStep) :
    Act.Discreet net net' token (execute (Transport.line net) s.beside terms given steps)
      (execute (Transport.line net') s.beside { terms with token := token } given steps) := by
  refine Act.discreet_bind ?_ fun id => discreet_run_steps s terms id steps.length steps 0 .idle
  unfold chooseRpcId
  split
  · exact Act.discreet_draw _
  · exact Act.discreet_pure _

end LedgerSession
end EbsiDid
