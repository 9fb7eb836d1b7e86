import EbsiDid.Json.Value

set_option autoImplicit false

/-!
Entries under keys that are values, in order of insertion. Two keys are one when they are alike.
-/
namespace EbsiDid

abbrev Entries (α : Type) := List (Value × α)

namespace Entries

variable {α : Type}

def get? (key : Value) : Entries α → Option α
  | [] => none
  | (k, a) :: rest => if k.alike key then some a else get? key rest

/-- Replaces an entry in its place, or adds it at the end. -/
def put (key : Value) (a : α) : Entries α → Entries α
  | [] => [(key, a)]
  | (k, b) :: rest => if k.alike key then (k, a) :: rest else (k, b) :: put key a rest

def erase (key : Value) (entries : Entries α) : Entries α :=
  entries.filter fun entry => !entry.1.alike key

def has (key : Value) (entries : Entries α) : Bool := (entries.get? key).isSome

def keys (entries : Entries α) : List Value := entries.map Prod.fst

/-- Puts entries one after another. -/
def update (entries later : Entries α) : Entries α :=
  later.foldl (fun acc entry => put entry.1 entry.2 acc) entries

end Entries
end EbsiDid
