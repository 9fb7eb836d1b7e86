import EbsiDid.Ledger.Desk

set_option autoImplicit false

/-!
Where the bearer token goes: it stands in the Authorization header of each request, and in the record of
each call.
-/
namespace EbsiDid

def authorize (token : Value) (header : String × String) : String × String :=
  if header.1 = "Authorization" then (header.1, "Bearer " ++ token.display) else header

-- The request with another token in its Authorization header.
def HttpRequest.carrying (token : Value) (r : HttpRequest) : HttpRequest :=
  { r with headers := r.headers.map (authorize token) }

def RpcCall.carrying (token : Value) (k : RpcCall) : RpcCall := { k with token := token }

def Event.carrying (token : Value) : Event → Event
  | .called k => .called (k.carrying token)
  | e => e

def Trace.carrying (token : Value) (t : Trace) : Trace := t.map (Event.carrying token)

theorem headers_carrying (token : Value) (k : RpcCall) :
    RpcClient.headersOf (k.carrying token) = (RpcClient.headersOf k).map (authorize token) := by
  simp [RpcClient.headersOf, RpcCall.carrying, authorize]

namespace Trace

theorem carrying_append (token : Value) (a b : Trace) : (a ++ b).carrying token = a.carrying token ++ b.carrying token :=
  List.map_append

theorem carrying_lines (token : Value) (log : Log) : carrying token (log.map Event.line) = log.map Event.line := by
  rw [carrying, List.map_map]
  rfl

theorem log_carrying (token : Value) (t : Trace) : (t.carrying token).log = t.log := by
  have each : ∀ e : Event, (e.carrying token).log = e.log := fun e => by cases e <;> rfl
  simp only [log, carrying, List.flatMap_map, each]

end Trace

/-! ### A network and the requests it is sent -/

namespace Network

variable {ν ν' : Type}

-- What a network answers to requests one after another.
def answers (net : Network ν) : List HttpRequest → ν → List Exchange
  | [], _ => []
  | request :: rest, state => (net.exchange request state).1 :: net.answers rest (net.exchange request state).2

def after (net : Network ν) (requests : List HttpRequest) (state : ν) : ν :=
  requests.foldl (fun state request => (net.exchange request state).2) state

theorem answers_append (net : Network ν) (a b : List HttpRequest) (state : ν) :
    net.answers (a ++ b) state = net.answers a state ++ net.answers b (net.after a state) := by
  induction a generalizing state with
  | nil => rfl
  | cons request rest ih => exact congrArg _ (ih _)

theorem after_append (net : Network ν) (a b : List HttpRequest) (state : ν) :
    net.after (a ++ b) state = net.after b (net.after a state) := List.foldl_append

theorem answers_length (net : Network ν) (requests : List HttpRequest) (state : ν) :
    (net.answers requests state).length = requests.length := by
  induction requests generalizing state with
  | nil => rfl
  | cons request rest ih => exact congrArg _ (ih _)

-- Asked the same with another token, the other network gives the same answers.
def Alike (net : Network ν) (net' : Network ν') (token : Value) (requests : List HttpRequest) (state : ν) (state' : ν') :
    Prop :=
  net'.answers (requests.map (HttpRequest.carrying token)) state' = net.answers requests state

theorem alike_append {net : Network ν} {net' : Network ν'} {token : Value} {a b : List HttpRequest} {state : ν} {state' : ν'}
    (alike : Alike net net' token (a ++ b) state state') : Alike net net' token a state state' ∧
      Alike net net' token b (net.after a state) (net'.after (a.map (HttpRequest.carrying token)) state') := by
  rw [Alike, List.map_append, answers_append, answers_append] at alike
  refine List.append_inj alike ?_
  rw [answers_length, answers_length, List.length_map]

-- A network that looks at no Authorization header, in any of its states.
theorem alike_of_unseen {net : Network ν} {token : Value}
    (unseen : ∀ request state, net.exchange (request.carrying token) state = net.exchange request state)
    (requests : List HttpRequest) (state : ν) : Alike net net token requests state state := by
  induction requests generalizing state with
  | nil => rfl
  | cons request rest ih =>
      have later := ih (net.exchange request state).2
      rw [Alike] at later
      rw [Alike, List.map_cons, answers, unseen, later]
      rfl

end Network

/-! ### A call, by whether it goes out -/

namespace Connection

variable {ν ν' : Type}

theorem open_session_sent (c : Connection ν) : c.openSession.2.sent = c.sent ∧ c.openSession.2.network = c.network := by
  unfold openSession
  split
  · split <;> exact ⟨rfl, rfl⟩
  · exact ⟨rfl, rfl⟩

theorem open_session_alike {c : Connection ν} {c' : Connection ν'} (client : c'.client = c.client)
    (sessions : c'.sessions = c.sessions) : c'.openSession.1 = c.openSession.1 ∧
      c'.openSession.2.client = c.openSession.2.client ∧ c'.openSession.2.sessions = c.openSession.2.sessions := by
  unfold openSession
  rw [client, sessions]
  split
  · split
    · exact ⟨rfl, client, sessions⟩
    · exact ⟨rfl, rfl, rfl⟩
  · exact ⟨rfl, rfl, rfl⟩

-- The address and the parameters of a call, which are settled before anything goes out.
def posted (c : Connection ν) (k : RpcCall) : Except Error (String × List Value) := do
  let url ← c.client.mutateUrl k.apiOpts
  let params ← paramsOf k.params
  return (url, params)

theorem call_unposted {net : Network ν} {c : Connection ν} {k : RpcCall} {e : Error} (unposted : c.posted k = .error e) :
    c.call net k = (.silent (.error e), c) := by
  unfold posted at unposted
  unfold call
  cases address : c.client.mutateUrl k.apiOpts with
  | error e =>
      rw [address] at unposted
      cases unposted
      rfl
  | ok url =>
      cases listed : paramsOf k.params with
      | error e =>
          rw [address, listed] at unposted
          cases unposted
          rfl
      | ok params =>
          rw [address, listed] at unposted
          cases unposted

def request (c : Connection ν) (k : RpcCall) (url : String) (params : List Value) : HttpRequest :=
  ⟨c.openSession.1, url, RpcClient.bodyOf k params, RpcClient.headersOf k⟩

theorem call_posted {net : Network ν} {c : Connection ν} {k : RpcCall} {url : String} {params : List Value}
    (posted : c.posted k = .ok (url, params)) :
    let request := c.request k url params
    let reply := RpcClient.outcomeOf k url (net.exchange request c.network).1
    c.call net k = (⟨reply.result, RpcClient.callingLine k url :: reply.log⟩,
      { c.openSession.2 with sent := c.sent ++ [request], network := (net.exchange request c.network).2 }) := by
  unfold Connection.posted at posted
  unfold call
  cases address : c.client.mutateUrl k.apiOpts with
  | error e =>
      rw [address] at posted
      cases posted
  | ok url =>
      cases listed : paramsOf k.params with
      | error e =>
          rw [address, listed] at posted
          cases posted
      | ok params =>
          rw [address, listed] at posted
          cases posted
          simp only [open_session_sent c]
          rfl

theorem request_carrying {c : Connection ν} {c' : Connection ν'} (client : c'.client = c.client)
    (sessions : c'.sessions = c.sessions) (token : Value) (k : RpcCall) (url : String) (params : List Value) :
    c'.request (k.carrying token) url params = (c.request k url params).carrying token := by
  rw [request, (open_session_alike client sessions).1, headers_carrying]
  rfl

end Connection

end EbsiDid
