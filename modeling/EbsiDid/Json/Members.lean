import EbsiDid.Error.Basic
import EbsiDid.Json.Entries

set_option autoImplicit false

/-!
The entries that a value stands for: the members of a record, or pairs one after another. A pair is
anything that can be gone through and has two members, the first of which can be a key.
-/
namespace EbsiDid.Entries

def ofRecord (r : Record) : Entries Value := r.map fun member => (.text member.1, member.2)

/-- The entry that a pair makes. -/
def entryOf (v : Value) : Except Error (Value × Value) :=
  match v.items? with
  | some [k, w] => if k.hashable then .ok (k, w) else .error .wrongType
  | some _ => .error .badValue
  | none => .error .wrongType

/-- Puts the entries of pairs one after another, up to the first that makes none. -/
def putPairs (entries : Entries Value) : List Value → Except Error Unit × Entries Value
  | [] => (.ok (), entries)
  | v :: rest =>
      match entryOf v with
      | .ok (k, w) => putPairs (entries.put k w) rest
      | .error e => (.error e, entries)

/-- Puts the entries that a value stands for. Those in front of an error stay. -/
def absorb (entries : Entries Value) (v : Value) : Except Error Unit × Entries Value :=
  match v with
  | .record fields => (.ok (), entries.update (ofRecord fields))
  | _ =>
      match v.items? with
      | some items => putPairs entries items
      | none => (.error .wrongType, entries)

/-- The entries that a value stands for. What is empty stands for none. -/
def ofValue (v : Value) : Except Error (Entries Value) :=
  if v.truthy then
    let (r, entries) := absorb [] v
    r.map fun () => entries
  else .ok []

/-- The members under texts. -/
def record (entries : Entries Value) : Record :=
  entries.filterMap fun entry => entry.1.text?.map fun key => (key, entry.2)

end EbsiDid.Entries
