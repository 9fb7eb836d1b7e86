import EbsiDid.Proofs.Rpc.Authorization
import EbsiDid.Rpc.Rehearsal

set_option autoImplicit false

/-!
The sessions of a connection over its whole life. Those that were there at the start belong to others, all later
ones to the client: it closes only its own, and it has one of them open at most.
-/
namespace EbsiDid.Connection

variable {ν : Type} {c : Connection ν} {given : Nat}

/-! ### What happens to a connection -/

-- A context ends in a close, however it ends. Anyone may close a session in between.
inductive Use where
  | call (k : RpcCall)
  | close
  | leave
  | closedOutside (n : Nat)

def use (net : Network ν) (c : Connection ν) : Use → Connection ν
  | .call k => (c.call net k).2
  | .close => c.close
  | .leave => c.close
  | .closedOutside n => c.closeSession n

def useAll (net : Network ν) (c : Connection ν) (uses : List Use) : Connection ν := uses.foldl (use net) c

def HoldsOpen (c : Connection ν) : Prop := ∃ n, c.client.held = some n ∧ isOpen c.sessions n = true

/-! ### Open sessions -/

theorem open_append (sessions : List HttpSession) (made : HttpSession) (n : Nat) :
    isOpen (sessions ++ [made]) n = if n = sessions.length then !made.closed else isOpen sessions n := by
  unfold isOpen
  by_cases last : n = sessions.length
  · simp [last]
  · by_cases before : n < sessions.length
    · rw [if_neg last, List.getElem?_append_left before]
    · have beyond : sessions[n]? = none := List.getElem?_eq_none (by omega)
      have past : (sessions ++ [made])[n]? = none := by
        apply List.getElem?_eq_none
        rw [List.length_append, List.length_singleton]
        omega
      rw [if_neg last, beyond, past]

theorem open_closed (c : Connection ν) (m n : Nat) :
    isOpen (c.closeSession m).sessions n = (decide (m ≠ n) && isOpen c.sessions n) := by
  unfold isOpen closeSession
  by_cases same : m = n
  · cases found : c.sessions[n]? <;> simp [same, found]
  · cases found : c.sessions[n]? <;> simp [same, found]

theorem closed_length (c : Connection ν) (n : Nat) : (c.closeSession n).sessions.length = c.sessions.length :=
  List.length_modify ..

-- A session is made when none is held that is open, and then only.
theorem open_session_cases (c : Connection ν) :
    (∃ n, c.client.held = some n ∧ isOpen c.sessions n = true ∧ c.openSession = (n, c)) ∨
      (¬ c.HoldsOpen ∧ c.openSession = (c.sessions.length,
        { c with
          client := { c.client with held := some c.sessions.length, owns := true }
          sessions := c.sessions ++ [⟨false, c.client.timeout⟩] })) := by
  unfold openSession HoldsOpen
  cases held : c.client.held with
  | none => exact .inr ⟨by simp, rfl⟩
  | some n =>
      by_cases opened : isOpen c.sessions n = true
      · exact .inl ⟨n, rfl, opened, if_pos opened⟩
      · exact .inr ⟨by simp [opened], if_neg opened⟩

theorem open_session_open (c : Connection ν) : isOpen c.openSession.2.sessions c.openSession.1 = true := by
  obtain ⟨n, _, opened, kept⟩ | ⟨_, fresh⟩ := open_session_cases c
  · rw [kept]
    exact opened
  · rw [fresh, open_append, if_pos rfl]
    rfl

-- What a call leaves behind, whatever comes back for it: nothing new, or one request more in an open session.
theorem call_cases (net : Network ν) (c : Connection ν) (k : RpcCall) :
    (c.call net k).2 = c ∨ ∃ request, request.session = c.openSession.1 ∧
      (c.call net k).2 = { c.openSession.2 with
        sent := c.sent ++ [request]
        network := (net.exchange request c.network).2 } := by
  cases posted : c.posted k with
  | error e => exact .inl (congrArg Prod.snd (call_unposted posted))
  | ok found => exact .inr ⟨_, rfl, congrArg Prod.snd (call_posted posted)⟩

theorem close_cases (c : Connection ν) :
    (c.close = { c with client := { c.client with held := none } } ∧ (c.client.owns = true → ¬ c.HoldsOpen)) ∨
      ∃ n, c.client.held = some n ∧ c.client.owns = true ∧
        c.close = { c.closeSession n with client := { c.client with held := none } } := by
  unfold close HoldsOpen
  cases held : c.client.held with
  | none => exact .inl ⟨rfl, by simp⟩
  | some n =>
      by_cases mine : (c.client.owns && isOpen c.sessions n) = true
      · exact .inr ⟨n, rfl, (Bool.and_eq_true_iff.mp mine).1, by simp only [if_pos mine]; rfl⟩
      · exact .inl ⟨by simp only [if_neg mine], by simpa using mine⟩

/-! ### Whose sessions they are -/

-- The first `given` sessions are those of others. The client knows whether it made the one that it holds, and has
-- let go of none of its own that is still open.
structure Owned (given : Nat) (c : Connection ν) : Prop where
  within : given ≤ c.sessions.length
  flag : ∀ n, c.client.held = some n → (c.client.owns = true ↔ given ≤ n)
  lone : ∀ n, given ≤ n → isOpen c.sessions n = true → c.client.held = some n

theorem owned_held_open (owned : Owned given c) {n : Nat} (own : given ≤ n) (opened : isOpen c.sessions n = true) :
    c.client.owns = true ∧ c.HoldsOpen := by
  have held := owned.lone n own opened
  exact ⟨(owned.flag n held).mpr own, n, held, opened⟩

theorem open_session_owned (owned : Owned given c) : Owned given c.openSession.2 := by
  obtain ⟨n, _, _, kept⟩ | ⟨unheld, fresh⟩ := open_session_cases c
  · rw [kept]
    exact owned
  · rw [fresh]
    refine ⟨?_, ?_, ?_⟩
    · exact Nat.le_trans owned.within (by simp)
    · rintro n ⟨⟩
      exact ⟨fun _ => owned.within, fun _ => rfl⟩
    · intro n own opened
      rw [open_append] at opened
      by_cases last : n = c.sessions.length
      · rw [last]
      · rw [if_neg last] at opened
        exact absurd (owned_held_open owned own opened).2 unheld

theorem call_owned (net : Network ν) (owned : Owned given c) (k : RpcCall) : Owned given (c.call net k).2 := by
  have opened := open_session_owned owned
  obtain same | ⟨request, _, posted⟩ := call_cases net c k
  · rw [same]
    exact owned
  · rw [posted]
    exact ⟨opened.within, opened.flag, opened.lone⟩

theorem close_session_owned (owned : Owned given c) (n : Nat) : Owned given (c.closeSession n) := by
  refine ⟨?_, owned.flag, ?_⟩
  · rw [closed_length]
    exact owned.within
  · intro m own opened
    rw [open_closed] at opened
    exact owned.lone m own (Bool.and_eq_true_iff.mp opened).2

-- Each of its own sessions is closed then: the one that it held, and the others before it.
theorem close_closes (owned : Owned given c) (n : Nat) (own : given ≤ n) : isOpen c.close.sessions n = false := by
  apply Bool.eq_false_iff.mpr
  intro opened
  obtain ⟨kept, unheld⟩ | ⟨m, held, _, closed⟩ := close_cases c
  · rw [kept] at opened
    obtain ⟨mine, holds⟩ := owned_held_open owned own opened
    exact unheld mine holds
  · rw [closed] at opened
    rw [open_closed, Bool.and_eq_true_iff, decide_eq_true_eq] at opened
    have same := owned.lone n own opened.2
    rw [held] at same
    exact opened.1 (Option.some.inj same)

theorem close_sessions_length (c : Connection ν) : c.close.sessions.length = c.sessions.length := by
  obtain ⟨kept, _⟩ | ⟨n, _, _, closed⟩ := close_cases c
  · rw [kept]
  · rw [closed]
    exact closed_length c n

theorem close_owned (owned : Owned given c) : Owned given c.close := by
  refine ⟨?_, ?_, ?_⟩
  · rw [close_sessions_length]
    exact owned.within
  · intro n held
    cases held
  · intro n own opened
    rw [close_closes owned n own] at opened
    cases opened

theorem use_owned (net : Network ν) (owned : Owned given c) (u : Use) : Owned given (c.use net u) := by
  cases u with
  | call k => exact call_owned net owned k
  | close => exact close_owned owned
  | leave => exact close_owned owned
  | closedOutside n => exact close_session_owned owned n

theorem use_all_owned (net : Network ν) (owned : Owned given c) (uses : List Use) : Owned given (c.useAll net uses) := by
  induction uses generalizing c with
  | nil => exact owned
  | cons u rest ih => exact ih (use_owned net owned u)

/-! ### What one use does -/

def Use.mayPost : Use → Nat
  | .call _ => 1
  | _ => 0

-- A session that is open after a request has gone out was open when it went, since none is opened again.
structure Behaves (given : Nat) (net : Network ν) (c : Connection ν) (u : Use) : Prop where
  posts : ∃ posts, (c.use net u).sent = c.sent ++ posts ∧ (c.use net u).network = net.after posts c.network ∧
    posts.length ≤ u.mayPost ∧ ∀ request ∈ posts, isOpen (c.use net u).sessions request.session = true
  spares : (∀ n, u ≠ .closedOutside n) → ∀ n < given, (c.use net u).sessions[n]? = c.sessions[n]?
  makes : c.sessions.length < (c.use net u).sessions.length →
    ¬ c.HoldsOpen ∧ (c.use net u).sessions.length = c.sessions.length + 1
  closes : u = .close ∨ u = .leave → ∀ n, given ≤ n → isOpen (c.use net u).sessions n = false

theorem open_session_spares (owned : Owned given c) (n : Nat) (foreign : n < given) :
    c.openSession.2.sessions[n]? = c.sessions[n]? := by
  obtain ⟨_, _, _, kept⟩ | ⟨_, fresh⟩ := open_session_cases c
  · rw [kept]
  · rw [fresh]
    exact List.getElem?_append_left (Nat.lt_of_lt_of_le foreign owned.within)

theorem open_session_makes (longer : c.sessions.length < c.openSession.2.sessions.length) :
    ¬ c.HoldsOpen ∧ c.openSession.2.sessions.length = c.sessions.length + 1 := by
  obtain ⟨_, _, _, kept⟩ | ⟨unheld, fresh⟩ := open_session_cases c
  · rw [kept] at longer
    exact absurd longer (Nat.lt_irrefl _)
  · rw [fresh]
    exact ⟨unheld, List.length_append⟩

theorem close_spares (owned : Owned given c) (n : Nat) (foreign : n < given) : c.close.sessions[n]? = c.sessions[n]? := by
  obtain ⟨kept, _⟩ | ⟨m, held, mine, closed⟩ := close_cases c
  · rw [kept]
  · have own := (owned.flag m held).mp mine
    have apart : m ≠ n := by omega
    rw [closed]
    exact List.getElem?_modify_ne _ _ apart

-- What happens to a connection without a request.
theorem posts_nothing (net : Network ν) {u : Use} (sent : (c.use net u).sent = c.sent)
    (network : (c.use net u).network = c.network) :
    ∃ posts, (c.use net u).sent = c.sent ++ posts ∧ (c.use net u).network = net.after posts c.network ∧
      posts.length ≤ u.mayPost ∧ ∀ request ∈ posts, isOpen (c.use net u).sessions request.session = true :=
  ⟨[], by rw [sent, List.append_nil], network, Nat.zero_le _, nofun⟩

theorem call_behaves (net : Network ν) (owned : Owned given c) (k : RpcCall) : Behaves given net c (.call k) := by
  have used : c.use net (.call k) = (c.call net k).2 := rfl
  obtain same | ⟨request, session, posted⟩ := call_cases net c k
  · rw [same] at used
    refine ⟨posts_nothing net (by rw [used]) (by rw [used]), ?_, ?_, by simp⟩
    · intro _ n _
      rw [used]
    · rw [used]
      exact fun longer => absurd longer (Nat.lt_irrefl _)
  · rw [posted] at used
    refine ⟨⟨[request], ?_, ?_, Nat.le_refl 1, ?_⟩, ?_, ?_, by simp⟩
    · rw [used]
    · rw [used]
      rfl
    · intro other member
      rw [List.mem_singleton.mp member, used, session]
      exact open_session_open c
    · intro _ n foreign
      rw [used]
      exact open_session_spares owned n foreign
    · rw [used]
      exact open_session_makes

theorem close_behaves (net : Network ν) (owned : Owned given c) {u : Use} (used : c.use net u = c.close) :
    Behaves given net c u := by
  have unsent : c.close.sent = c.sent ∧ c.close.network = c.network := by
    obtain ⟨kept, _⟩ | ⟨_, _, _, closed⟩ := close_cases c
    · rw [kept]
      exact ⟨rfl, rfl⟩
    · rw [closed]
      exact ⟨rfl, rfl⟩
  refine ⟨posts_nothing net (by rw [used, unsent.1]) (by rw [used, unsent.2]), ?_, ?_, ?_⟩
  · rw [used]
    exact fun _ => close_spares owned
  · rw [used, close_sessions_length]
    exact fun longer => absurd longer (Nat.lt_irrefl _)
  · rw [used]
    exact fun _ => close_closes owned

theorem use_behaves (net : Network ν) (owned : Owned given c) (u : Use) : Behaves given net c u := by
  cases u with
  | call k => exact call_behaves net owned k
  | close => exact close_behaves net owned rfl
  | leave => exact close_behaves net owned rfl
  | closedOutside n =>
      refine ⟨posts_nothing net rfl rfl, fun own => absurd rfl (own n), ?_, by simp⟩
      intro longer
      rw [use, closed_length] at longer
      exact absurd longer (Nat.lt_irrefl _)

theorem created_client {settings : Settings} {timeout : Value} {held : Option Nat} {client : RpcClient}
    (created : RpcClient.create settings timeout held = .ok client) :
    ∃ limit, client = ⟨settings, limit, held, held.isNone⟩ := by
  unfold RpcClient.create at created
  by_cases limited : timeout.truthy = true
  · rw [if_pos limited] at created
    cases created
    exact ⟨_, rfl⟩
  · rw [if_neg limited] at created
    cases read : settings.getFloat [.text "ebsi.rpc_timeout"] .null with
    | error e =>
        rw [read] at created
        cases created
    | ok limit =>
        rw [read] at created
        cases created
        exact ⟨_, rfl⟩

theorem created_owned {settings : Settings} {timeout : Value} {supplied : Option HttpSession} {client : RpcClient}
    (created : RpcClient.create settings timeout (supplied.map fun _ => 0) = .ok client) (state : ν) :
    Owned supplied.toList.length ⟨client, supplied.toList, [], state⟩ := by
  obtain ⟨limit, rfl⟩ := created_client created
  refine ⟨Nat.le_refl _, ?_, ?_⟩
  · cases supplied with
    | none => exact fun _ => nofun
    | some session =>
        rintro n ⟨⟩
        simp
  · intro n own opened
    have past : supplied.toList[n]? = none := List.getElem?_eq_none own
    rw [isOpen, past] at opened
    cases opened

-- After any uses of a connection that starts with the session it was supplied with, if any, there is one session of
-- its own that is open at most, and whatever comes next behaves.
theorem sessions_kept {settings : Settings} {timeout : Value} {supplied : Option HttpSession} {client : RpcClient}
    (created : RpcClient.create settings timeout (supplied.map fun _ => 0) = .ok client) (net : Network ν) (state : ν)
    (uses : List Use) :
    let given := supplied.toList.length
    let c := useAll net ⟨client, supplied.toList, [], state⟩ uses
    (∀ m n, given ≤ m → given ≤ n → isOpen c.sessions m = true → isOpen c.sessions n = true → m = n) ∧
      ∀ u, Behaves given net c u := by
  intro given c
  have owned : Owned given c := use_all_owned net (created_owned created state) uses
  constructor
  · intro m n first second here there
    have one := (owned.lone m first here).symm.trans (owned.lone n second there)
    exact Option.some.inj one
  · exact use_behaves net owned

-- The supplied session is closed by someone else; the client goes on with two of its own, one after the other.
theorem sessions_kept_closed_outside :
    let supplied : Option HttpSession := some ⟨false, .null⟩
    let call : RpcCall := ⟨.text "insertDidDocument", .list [], .int 7, .text "token", .null⟩
    let client : RpcClient := ⟨Settings.empty, .int 5, some 0, false⟩
    let uses : List Use := [.call call, .closedOutside 0, .call call, .leave, .call call]
    let c := useAll Rehearsal.network ⟨client, supplied.toList, [], ⟨[], 0⟩⟩ uses
    (RpcClient.create Settings.empty (.int 5) (supplied.map fun _ => 0) = .ok client ∧
      c.sent.map HttpRequest.session = [0, 1, 2] ∧ c.sessions.map HttpSession.closed = [true, true, false]) ∧
    (∀ m n, 1 ≤ m → 1 ≤ n → isOpen c.sessions m = true → isOpen c.sessions n = true → m = n) ∧
      ∀ u, Behaves 1 Rehearsal.network c u := by
  intro supplied call client uses c
  have created : RpcClient.create Settings.empty (.int 5) (supplied.map fun _ => 0) = .ok client := rfl
  exact ⟨⟨created, by decide +kernel, by decide +kernel⟩, sessions_kept created Rehearsal.network ⟨[], 0⟩ uses⟩

end EbsiDid.Connection
