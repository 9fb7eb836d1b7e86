import EbsiDid.Encoding.Utf8

set_option autoImplicit false

/-!
Recursive length prefixes: byte strings and lists of them as one byte string.
-/
namespace EbsiDid

inductive Rlp where
  | bytes (b : Bytes)
  | list (items : List Rlp)

namespace Rlp

/-- The length in front of a payload: in the tag for a short one, after it for a long one. -/
def header (offset length : Nat) : Bytes :=
  if length < 56 then [UInt8.ofNat (offset + length)]
  else
    let size := Encoding.minimalBytes length
    UInt8.ofNat (offset + 55 + size.length) :: size

def encodeBytes (b : Bytes) : Bytes :=
  match b with
  | [x] => if x < 0x80 then [x] else header 0x80 1 ++ [x]
  | _ => header 0x80 b.length ++ b

mutual
def encode : Rlp → Bytes
  | .bytes b => encodeBytes b
  | .list items =>
      let payload := encodeItems items
      header 0xc0 payload.length ++ payload

def encodeItems : List Rlp → Bytes
  | [] => []
  | item :: rest => encode item ++ encodeItems rest
end

/-- A natural number without leading zero bytes. -/
def nat (n : Nat) : Rlp := .bytes (Encoding.minimalBytes n)

end Rlp
end EbsiDid
