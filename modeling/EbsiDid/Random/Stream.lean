import EbsiDid.Encoding.Base58
import EbsiDid.Encoding.Hex
import EbsiDid.Error.Basic
import EbsiDid.Json.Conversion
import EbsiDid.Json.Order

set_option autoImplicit false

/-!
Random material as a stream of bytes and a list of request ids, each used once and from the front.
-/
namespace EbsiDid

structure RandomStream where
  bytes : Bytes
  rpcIds : List Value

namespace RandomStream

/-- How many bytes a length takes. A negative one leaves that many at the end. -/
def count (available : Nat) (length : Int) : Nat :=
  if 0 ≤ length then length.toNat else available - length.natAbs

/-- How many of the available bytes a request takes. It may not be for more than there are, and its
length has to be an integer. -/
def grant (available : Nat) (length : Value) : Except Error Nat :=
  match length.numeric? with
  | none => .error .wrongType
  | some n =>
      if (Value.Numeric.whole available).less n then .error .streamExhausted
      else
        match length.whole? with
        | some k => .ok (count available k)
        | none => .error .wrongType

def takeBytes (r : RandomStream) (length : Value) : Except Error Bytes × RandomStream :=
  match grant r.bytes.length length with
  | .ok n => (.ok (r.bytes.take n), { r with bytes := r.bytes.drop n })
  | .error e => (.error e, r)

def takeRpcId (r : RandomStream) : Except Error Value × RandomStream :=
  match r.rpcIds with
  | [] => (.error .noRpcIds, r)
  | id :: rest => (.ok id, { r with rpcIds := rest })

theorem takeBytes_append (r : RandomStream) (length : Value) (chunk : Bytes)
    (taken : (r.takeBytes length).1 = .ok chunk) :
    chunk ++ (r.takeBytes length).2.bytes = r.bytes := by
  unfold takeBytes at *
  split at taken
  · cases taken
    exact List.take_append_drop _ _
  · cases taken

theorem takeBytes_error (r : RandomStream) (length : Value) (e : Error)
    (failed : (r.takeBytes length).1 = .error e) : (r.takeBytes length).2 = r := by
  unfold takeBytes at *
  split at failed
  · cases failed
  · rfl

end RandomStream
end EbsiDid
