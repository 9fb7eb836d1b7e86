import EbsiDid.Model.Document
import EbsiDid.Rpc.Client

set_option autoImplicit false

/-!
Rehearsals: a network and a signer that play prepared answers in order. The network makes up answers
of its own once the prepared ones have run out; the signer repeats its last one.
-/
namespace EbsiDid.Rehearsal

/-- The answers still to come, and how many requests there have been. -/
structure Script where
  exchanges : List Exchange
  served : Nat

def sampleAddress : String := "0x7E5F4552091A69125d5DfCb7b8C2659029395Bdf"

def hexText (n : Nat) : String := "0x" ++ String.ofList (Nat.toDigits 16 n)

/-- The transaction that a build answers. -/
def builtTransaction (n : Nat) : Value :=
  .record [("from", .text sampleAddress), ("to", .text sampleAddress), ("data", .text "0x1234"),
    ("nonce", .text (hexText n)), ("chainId", .text "0x181f"), ("gasLimit", .text "0x5208"),
    ("gasPrice", .text "0x0"), ("value", .text "0x0")]

/-- The result of the request that comes after `n` others. -/
def resultOf (request : HttpRequest) (n : Nat) : Value :=
  match Record.get "method" request.body with
  | .text method =>
      if method = RpcMethod.sendSignedTransaction.name then .text ("0xreceipt" ++ Number.text n)
      else builtTransaction n
  | _ => builtTransaction n

def answerText (request : HttpRequest) (n : Nat) : String :=
  Json.write Json.spaced (.record [("jsonrpc", .text "2.0"), ("id", Record.get "id" request.body),
    ("result", resultOf request n)])

def network : Network Script where
  exchange request script :=
    match script.exchanges with
    | x :: rest => (x, ⟨rest, script.served + 1⟩)
    | [] => (.answered (.int 200) (.text (answerText request script.served)), ⟨[], script.served + 1⟩)

/-- Plays the first answer, and keeps it if it is the last. -/
def sign (answers : List (Except Error SignedTransaction)) :
    Except Error SignedTransaction × List (Except Error SignedTransaction) :=
  match answers with
  | [] => (.error (.foreign .badIndex), [])
  | [last] => (last, [last])
  | first :: rest => (first, rest)

/-- What becomes of a call, in the order of calls. -/
inductive Prepared where
  | result (value : Value)
  | fault (payload : Value)
  | failure (e : Error)

/-- Plays the first outcome for a call. -/
def play (call : RpcCall) : List Prepared → Except Error RpcOutcome × List Prepared
  | [] => (.error (.foreign .badIndex), [])
  | .result value :: rest => (.ok (.result call.rpcId value), rest)
  | .fault payload :: rest => (.ok (.fault call.rpcId payload), rest)
  | .failure e :: rest => (.error e, rest)

end EbsiDid.Rehearsal
