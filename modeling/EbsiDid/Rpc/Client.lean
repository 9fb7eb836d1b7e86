import EbsiDid.Json.Reader
import EbsiDid.Registry.Endpoint
import EbsiDid.Settings.Basic
import EbsiDid.Trace.Log

set_option autoImplicit false

/-!
The JSON-RPC client of the registry. A call makes one request in an HTTP session; the client makes a
session when it holds none that is open, and closes only those that it made. The network is whatever
answers requests.
-/
namespace EbsiDid

/-- A call as it is asked for. -/
structure RpcCall where
  method : Value
  params : Value
  rpcId : Value
  token : Value
  apiOpts : Value

inductive RpcOutcome where
  | result (rpcId value : Value)
  | fault (rpcId payload : Value)

structure HttpSession where
  closed : Bool
  timeout : Value

structure HttpRequest where
  session : Nat
  url : String
  body : Record
  headers : List (String × String)

/-- How an exchange ends: with a status and a text, or with a failure. -/
inductive Exchange where
  | answered (status text : Value)
  | failed (e : Error)

/-- Answers requests, over a state of its own. -/
structure Network (ν : Type) where
  exchange : HttpRequest → ν → Exchange × ν

/-- A client: its settings, its time limit, the session it holds, and whether it made that one. -/
structure RpcClient where
  settings : Settings
  timeout : Value
  held : Option Nat
  owns : Bool

/-- Does a body tell of a failure? Only a record without status and error does not. -/
def isFault (body : Value) : Bool :=
  match body with
  | .record fields => Record.has "status" fields || Record.has "error" fields
  | _ => true

namespace RpcClient

/-- A time limit is the one given, or the setting. Zero is no limit. -/
def create (settings : Settings) (timeout : Value) (held : Option Nat) : Except Error RpcClient := do
  let limit ←
    if timeout.truthy then pure timeout
    else settings.getFloat [.text "ebsi.rpc_timeout"] .null
  return ⟨settings, if limit.truthy then limit else .null, held, held.isNone⟩

def settingText (s : Settings) (name : String) : Except Error Value := s.getText [.text name] .null

/-- The address for the given options, over those of the settings. -/
def mutateUrl (c : RpcClient) (apiOpts : Value) : Except Error String := do
  let environment ← settingText c.settings "ebsi.environment"
  let version ← settingText c.settings "ebsi.version"
  let host ← settingText c.settings "ebsi.registry_host"
  let given ← Registry.layerOf apiOpts
  let options := Registry.merge
    [[("environment", environment), ("version", version), ("registry_host", host)], given]
  return (Registry.urls (options.get "environment") (options.get "version")
    (options.get "registry_host")).mutate

def quoted (c : RpcClient) : Except Error String :=
  (c.mutateUrl .null).map fun url => "<EbsiRpcClient(mutate=" ++ url ++ ")>"

def bodyOf (c : RpcCall) (params : List Value) : Record :=
  [("jsonrpc", .text "2.0"), ("method", c.method), ("params", .list params), ("id", c.rpcId)]

def headersOf (c : RpcCall) : List (String × String) :=
  [("Content-Type", "application/json"), ("Authorization", "Bearer " ++ c.token.display)]

def callingLine (c : RpcCall) (url : String) : LogLine :=
  ⟨.debug, "Calling " ++ c.method.display ++ " on " ++ url ++ " with id " ++ c.rpcId.display⟩

/-- What an exchange means for a call. -/
def outcomeOf (c : RpcCall) (url : String) (x : Exchange) : Reply RpcOutcome :=
  match x with
  | .failed e =>
      .silent (.error (if e.kind.isExchangeFailure then .unreachable c.method.display url e.kind else e))
  | .answered status (.text text) =>
      match Json.read text with
      | .error _ =>
          ⟨.ok (.fault c.rpcId (.record [("status", status), ("title", .text text)])),
           [⟨.debug, "Non JSON response from registry (HTTP " ++ status.display ++ ")"⟩]⟩
      | .ok body =>
          if isFault body then
            ⟨.ok (.fault c.rpcId body),
             [⟨.debug, "Registry fault for " ++ c.method.display ++ " (HTTP " ++ status.display ++ ")"⟩]⟩
          else .silent (.ok (.result c.rpcId ((body.record?.getD []).get "result")))
  | .answered _ _ => .silent (.error .wrongType)

end RpcClient

/-- A client with all sessions made so far, the requests sent, and the network. -/
structure Connection (ν : Type) where
  client : RpcClient
  sessions : List HttpSession
  sent : List HttpRequest
  network : ν

namespace Connection

variable {ν : Type}

def isOpen (sessions : List HttpSession) (n : Nat) : Bool :=
  match sessions[n]? with
  | some s => !s.closed
  | none => false

/-- The held session if it is open, or else a new one. -/
def openSession (c : Connection ν) : Nat × Connection ν :=
  let fresh := (c.sessions.length,
    { c with
      client := { c.client with held := some c.sessions.length, owns := true }
      sessions := c.sessions ++ [⟨false, c.client.timeout⟩] })
  match c.client.held with
  | some n => if isOpen c.sessions n then (n, c) else fresh
  | none => fresh

/-- Marks a session closed. -/
def closeSession (c : Connection ν) (n : Nat) : Connection ν :=
  { c with sessions := c.sessions.modify n fun s => { s with closed := true } }

/-- As `closeSession`, for a position. A negative one counts from the end. -/
def closeAt (c : Connection ν) (position : Value) : Except Error (Connection ν) :=
  match position.whole? with
  | none => .error .wrongType
  | some n =>
      let place := if n < 0 then n + c.sessions.length else n
      if 0 ≤ place ∧ place < c.sessions.length then .ok (c.closeSession place.toNat)
      else .error (.foreign .badIndex)

/-- Lets the held session go, and closes it if the client made it. -/
def close (c : Connection ν) : Connection ν :=
  let closed := match c.client.held with
    | some n => if c.client.owns && isOpen c.sessions n then c.closeSession n else c
    | none => c
  { closed with client := { closed.client with held := none } }

/-- The members that are sent as positional parameters. -/
def paramsOf (v : Value) : Except Error (List Value) :=
  match v.items? with
  | some items => .ok items
  | none => .error .wrongType

def call (net : Network ν) (c : Connection ν) (k : RpcCall) : Reply RpcOutcome × Connection ν :=
  match c.client.mutateUrl k.apiOpts, paramsOf k.params with
  | .error e, _ => (.silent (.error e), c)
  | .ok _, .error e => (.silent (.error e), c)
  | .ok url, .ok params =>
      let (n, opened) := c.openSession
      let request : HttpRequest := ⟨n, url, RpcClient.bodyOf k params, RpcClient.headersOf k⟩
      let (x, after) := net.exchange request opened.network
      let reply := RpcClient.outcomeOf k url x
      (⟨reply.result, RpcClient.callingLine k url :: reply.log⟩,
       { opened with sent := opened.sent ++ [request], network := after })

end Connection
end EbsiDid
