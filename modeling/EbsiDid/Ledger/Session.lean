import EbsiDid.Ledger.Desk
import EbsiDid.Registry.Step

set_option autoImplicit false

/-!
Write sessions: each step is built by the registry, signed with the controller's key and submitted.
The first fault aborts the session; steps already submitted stay on the ledger.
-/
namespace EbsiDid

/-- What all steps of a session share. -/
structure SessionTerms where
  kid : Value
  token : Value
  apiOpts : Value

namespace LedgerSession

variable {τ : Type}

/-- Errors after which the session tells that it is aborted. -/
def aborts (e : Error) : Bool := e.kind.isA .rpcFault || e.kind.isA .signing

def move (current next : Phase) (method : Option RpcMethod) : Act τ Unit :=
  Act.record (.moved current next method)

def callOf (terms : SessionTerms) (rpcId : Value) (method : RpcMethod) (params : Value) : RpcCall where
  method := .text method.name
  params := .list [params]
  rpcId := rpcId
  token := terms.token
  apiOpts := terms.apiOpts

/-- Calls the registry. A fault is an error that carries the session's request id. -/
def invoke (t : Transport τ) (terms : SessionTerms) (rpcId : Value) (method : RpcMethod)
    (params : Value) : Act τ Value := do
  match ← Act.call t (callOf terms rpcId method params) with
  | .result _ value => return value
  | .fault _ payload => Act.fail (.rpcFault payload method.name rpcId)

/-- Errors of the signer that are not of its own family are reported as failures to sign. -/
def signingError (kid : Value) (e : Error) : Error :=
  if e.kind.isA .signing then e else .signingFailed kid.display e

def askSignature (s : Signer τ) (terms : SessionTerms) (unsigned : Value) : Act τ SignedTransaction :=
  Act.mapError (signingError terms.kid) (Act.sign s terms.kid unsigned)

/-- Where a step stands in its session. -/
structure Position where
  index : Nat
  count : Nat
  method : RpcMethod

def warning (p : Position) : String :=
  "Ledger write aborted at step " ++ Number.text (p.index + 1 : Nat) ++ " of " ++ Number.text p.count
    ++ " (" ++ p.method.name ++ "); " ++ Number.text p.index ++ " completed step(s) are not rolled back"

def abort (p : Position) (current : Phase) (e : Error) : Act τ Unit :=
  if aborts e then do
    move current .aborted (some p.method)
    Act.log .warning (warning p)
  else Act.pure ()

/-- Does the work of a phase. Some errors abort the session there. -/
def during {α : Type} (p : Position) (current : Phase) (x : Act τ α) : Act τ α :=
  Act.onError x (abort p current)

/-- Builds, signs and submits one step. -/
def runStep (t : Transport τ) (s : Signer τ) (terms : SessionTerms) (rpcId : Value) (p : Position)
    (current : Phase) (params : Value) : Act τ Value := do
  move current .building (some p.method)
  let unsigned ← during p .building (invoke t terms rpcId p.method params)
  move .building .signing (some p.method)
  let signed ← during p .signing (askSignature s terms unsigned)
  move .signing .submitting (some p.method)
  let receipt ← during p .submitting
    (invoke t terms rpcId .sendSignedTransaction (.record (signed.envelope unsigned)))
  move .submitting .stepComplete (some p.method)
  return receipt

def runSteps (t : Transport τ) (s : Signer τ) (terms : SessionTerms) (rpcId : Value) (count : Nat) :
    Nat → Phase → List WriteStep → Act τ (List Value)
  | _, current, [] => do
      move current .done none
      return []
  | index, current, step :: rest => do
      let receipt ← runStep t s terms rpcId ⟨index, count, step.method⟩ current step.params
      let receipts ← runSteps t s terms rpcId count (index + 1) .stepComplete rest
      return receipt :: receipts

/-- The request id of a session: the given one, or a fresh one. -/
def chooseRpcId (given : Value) : Act τ Value :=
  match given with
  | .null => Act.draw RandomStream.takeRpcId
  | id => Act.pure id

/-- Runs the steps in order. The receipts are the answers to the submissions, one for each step. -/
def execute (t : Transport τ) (s : Signer τ) (terms : SessionTerms) (rpcId : Value)
    (steps : List WriteStep) : Act τ (List Value) := do
  let id ← chooseRpcId rpcId
  runSteps t s terms id steps.length 0 .idle steps

end LedgerSession
end EbsiDid
