import EbsiDid.Error.Kind
import EbsiDid.Json.Display

set_option autoImplicit false

/-!
Errors with the errors behind them, and their messages rolled into one line. Behind an error stands the one that
caused it and the one that was only at hand when it arose.
-/
namespace EbsiDid

/-- An error with its arguments. Families of this library may carry a code, a claim or a payload. -/
structure Notice where
  kind : Kind
  args : List Value
  code : Value
  claim : Option Value
  fault : Option (Value × Value × Value)

namespace Notice

def plain (kind : Kind) (args : List Value) (code : Value) : Notice :=
  ⟨kind, args, if code.truthy then code else .null, none, none⟩

/-- A missing member of a key, under a message of its own or the usual one. -/
def missingClaim (claim message : Value) : Notice :=
  let usual := "JWK \"" ++ claim.display ++ "\" parameter missing or invalid"
  ⟨.missingClaim, [if message.truthy then message else .text usual], .null, some claim, none⟩

def rpcFaultText (method payload : Value) : String :=
  "Registry call " ++ (method.orElse (.text "(unknown)")).display ++ " failed: " ++ payload.display

/-- A fault answered by the registry, with the payload as received. -/
def rpcFault (payload method rpcId : Value) : Notice :=
  ⟨.rpcFault, [.text (rpcFaultText method payload)], .null, none, some (payload, method, rpcId)⟩

/-- Arguments by name: the positional ones take the first names. None may be given twice, and none
under another name. -/
def named? (names : List String) (args : List Value) (others : Record) : Option Record :=
  let bound := names.zip args
  if args.length ≤ names.length && others.all fun m => names.contains m.1 && !Record.has m.1 bound then
    some (bound ++ others)
  else none

/-- The error of a family made from its arguments, if they are fit for it. -/
def ofArguments? (kind : Kind) (args : List Value) (others : Record) : Option Notice :=
  match kind with
  | .missingClaim => do
      let a ← named? ["claim", "message"] args others
      let claim ← a.get? "claim"
      return missingClaim claim (a.get "message")
  | .rpcFault => do
      if 1 < args.length then none
      let a ← named? ["payload", "method", "rpc_id"] args others
      let payload ← a.get? "payload"
      return rpcFault payload (a.get "method") (a.get "rpc_id")
  | _ =>
      let names := if kind.own then ["error_code"] else []
      (named? names [] others).map fun a => plain kind args (a.get "error_code")

/-- The first argument as text, trimmed. -/
def message (n : Notice) : String :=
  match n.args with
  | [] => ""
  | first :: _ => Text.trim first.display

/-- After each newline the blanks go and a full stop comes. -/
def foldLines : Bool → List Char → List Char
  | _, [] => []
  | skipping, c :: rest =>
      if c = '\n' then
        if skipping then foldLines true rest else '.' :: ' ' :: foldLines true rest
      else if skipping && Text.isBlank c then foldLines true rest
      else c :: foldLines false rest

/-- The message on one line. -/
def line (n : Notice) : String :=
  match n.args with
  | [] => ""
  | first :: _ => String.ofList (Text.trimChars (foldLines false (Text.trimChars first.display.toList)))

end Notice

/-- An error as it was raised, over the chains behind it, or nothing. -/
inductive Chain where
  | nothing
  | raised (n : Notice) (cause context : Chain)

namespace Chain

/-- The errors that caused one another, from the first of the chain on. -/
def causes : Chain → List Notice
  | .nothing => []
  | .raised n cause _ => n :: causes cause

def rollUp (chain : Chain) : String :=
  Text.trim (Text.joined ". " (chain.causes.map Notice.line))

end Chain
end EbsiDid
