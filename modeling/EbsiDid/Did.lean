import EbsiDid.Error.Basic

set_option autoImplicit false

/-!
Decentralized identifiers: `did:`, the name of a method, a colon and the id within the method. An id
is made of segments between colons, the last of which is not empty.
-/
namespace EbsiDid

structure Did where
  method : String
  id : String
deriving DecidableEq, Repr

namespace Did

def isMethodChar (c : Char) : Bool := ('a' ≤ c && c ≤ 'z') || ('0' ≤ c && c ≤ '9')

def isIdChar (c : Char) : Bool :=
  ('a' ≤ c && c ≤ 'z') || ('A' ≤ c && c ≤ 'Z') || ('0' ≤ c && c ≤ '9')
    || c = '.' || c = '_' || c = '%' || c = '-'

/-- Drops one newline from the end. -/
def dropNewline (chars : List Char) : List Char :=
  if chars.getLast? = some '\n' then chars.dropLast else chars

def isId (chars : List Char) : Bool :=
  chars.all (fun c => isIdChar c || c = ':') &&
    match chars.getLast? with
    | some c => isIdChar c
    | none => false

def afterMark : List Char → Option (List Char)
  | 'd' :: 'i' :: 'd' :: ':' :: rest => some rest
  | _ => none

/-- Reads a DID. One newline may stand after it. -/
def parse? (text : String) : Option Did := do
  let rest ← afterMark text.toList
  let method := rest.takeWhile isMethodChar
  if method.isEmpty then none
  match rest.dropWhile isMethodChar with
  | ':' :: more =>
      let id := dropNewline more
      if isId id then return ⟨String.ofList method, String.ofList id⟩ else none
  | _ => none

def ofValue (v : Value) : Except Error Did :=
  match v with
  | .text s =>
      match parse? s with
      | some did => .ok did
      | none => .error .invalidDid
  | _ => .error .wrongType

end Did
end EbsiDid
