import EbsiDid.Random.Stream
import EbsiDid.Rpc.Client
import EbsiDid.Wallet.KeyManager

set_option autoImplicit false

/-!
The registrar's desk: the random material, the key manager, and whatever lies outside. Actions at the
desk end in a value or an error and leave a record of events, and of log lines among them.
-/
namespace EbsiDid

/-- States of a ledger write session. -/
inductive Phase where
  | idle
  | building
  | signing
  | submitting
  | stepComplete
  | done
  | aborted
deriving DecidableEq, Repr

def Phase.name : Phase → String
  | .idle => "idle"
  | .building => "building"
  | .signing => "signing"
  | .submitting => "submitting"
  | .stepComplete => "step-complete"
  | .done => "done"
  | .aborted => "aborted"

/-- What happened: a line was logged, a session moved on, a call went out, a signature was asked
for, a key was imported, or a key or a service was appended to the identifier at hand. -/
inductive Event where
  | line (l : LogLine)
  | moved (current next : Phase) (method : Option RpcMethod)
  | called (c : RpcCall)
  | asked (kid transaction : Value)
  | imported (k : KeyDescriptor)
  | addedKey (k : KeyDescriptor)
  | addedService (s : Service)

def Event.log : Event → Log
  | .line l => [l]
  | .moved current next method =>
      let step := match method with
        | some m => " (" ++ m.name ++ ")"
        | none => ""
      [⟨.debug, current.name ++ " -> " ++ next.name ++ step⟩]
  | _ => []

abbrev Trace := List Event

def Trace.log (t : Trace) : Log := t.flatMap Event.log

def Trace.calls (t : Trace) : List RpcCall :=
  t.filterMap fun e => match e with
    | .called c => some c
    | _ => none

def Trace.signatures (t : Trace) : List (Value × Value) :=
  t.filterMap fun e => match e with
    | .asked kid tx => some (kid, tx)
    | _ => none

def Trace.moves (t : Trace) : List (Phase × Phase) :=
  t.filterMap fun e => match e with
    | .moved current next _ => some (current, next)
    | _ => none

/-- Random material and keys, with a state `τ` for all that is outside. -/
structure Desk (τ : Type) where
  random : RandomStream
  keys : KeyManager
  outside : τ

/-- Hands calls to the registry. -/
structure Transport (τ : Type) where
  call : RpcCall → τ → Reply RpcOutcome × τ

/-- Signs transactions: the key manager itself, or a signer outside. -/
inductive Signer (τ : Type) where
  | keyManager
  | outside (sign : Value → Value → τ → Except Error SignedTransaction × τ)

/-- The registry at the end of a connection, with something else beside it. -/
def Transport.line {ν σ : Type} (net : Network ν) : Transport (Connection ν × σ) where
  call c world :=
    let (r, after) := Connection.call net world.1 c
    (r, (after, world.2))

/-- A signer beside something that it does not touch. -/
def Signer.beside {ω σ : Type} : Signer σ → Signer (ω × σ)
  | .keyManager => .keyManager
  | .outside sign => .outside fun kid tx world =>
      let (r, after) := sign kid tx world.2
      (r, (world.1, after))

structure Ended (τ α : Type) where
  result : Except Error α
  trace : Trace
  desk : Desk τ

/-- What can be done at a desk. -/
def Act (τ α : Type) := Desk τ → Ended τ α

namespace Act

variable {τ α β : Type}

def pure (a : α) : Act τ α := fun d => ⟨.ok a, [], d⟩

def fail (e : Error) : Act τ α := fun d => ⟨.error e, [], d⟩

def bind (x : Act τ α) (f : α → Act τ β) : Act τ β := fun d =>
  let first := x d
  match first.result with
  | .ok a =>
      let second := f a first.desk
      ⟨second.result, first.trace ++ second.trace, second.desk⟩
  | .error e => ⟨.error e, first.trace, first.desk⟩

instance : Monad (Act τ) where
  pure := Act.pure
  bind := Act.bind

def ofExcept (r : Except Error α) : Act τ α := fun d => ⟨r, [], d⟩

def record (e : Event) : Act τ Unit := fun d => ⟨.ok (), [e], d⟩

def log (level : Level) (text : String) : Act τ Unit := record (.line ⟨level, text⟩)

/-- Draws from the random material. -/
def draw (f : RandomStream → Except Error α × RandomStream) : Act τ α := fun d =>
  let (r, rest) := f d.random
  ⟨r, [], { d with random := rest }⟩

/-- Imports a key into the key manager. -/
def importKey (key : ImportableKey) : Act τ KeyDescriptor := fun d =>
  let (r, keys) := d.keys.importKey key
  let noted := match r.result with
    | .ok k => [Event.imported k]
    | .error _ => []
  ⟨r.result, noted ++ r.log.map Event.line, { d with keys := keys }⟩

/-- Hands a call to the registry. -/
def call (t : Transport τ) (c : RpcCall) : Act τ RpcOutcome := fun d =>
  let (r, outside) := t.call c d.outside
  ⟨r.result, .called c :: r.log.map Event.line, { d with outside := outside }⟩

/-- Asks for a signature. -/
def sign (s : Signer τ) (kid tx : Value) : Act τ SignedTransaction := fun d =>
  match s with
  | .keyManager =>
      let (r, keys) := d.keys.sign kid tx
      ⟨r, [.asked kid tx], { d with keys := keys }⟩
  | .outside sign =>
      let (r, outside) := sign kid tx d.outside
      ⟨r, [.asked kid tx], { d with outside := outside }⟩

/-- Runs `handler` on the error of an action, which is raised again afterwards. -/
def onError (x : Act τ α) (handler : Error → Act τ Unit) : Act τ α := fun d =>
  let first := x d
  match first.result with
  | .ok _ => first
  | .error e =>
      let second := handler e first.desk
      match second.result with
      | .ok () => ⟨.error e, first.trace ++ second.trace, second.desk⟩
      | .error other => ⟨.error other, first.trace ++ second.trace, second.desk⟩

/-- Changes the error of an action. -/
def mapError (f : Error → Error) (x : Act τ α) : Act τ α := fun d =>
  let ended := x d
  { ended with result := ended.result.mapError f }

end Act
end EbsiDid
