import EbsiDid.Number.Binary64

set_option autoImplicit false

/-!
Dynamic values: the data of requests, answers, settings and transactions. Integers and doubles are
kept apart. A record keeps its members in the order in which their keys first came.
-/
namespace EbsiDid

inductive Value where
  | null
  | bool (b : Bool)
  | int (n : Int)
  | real (x : Binary64)
  | text (s : String)
  | list (items : List Value)
  | record (fields : List (String × Value))
deriving Inhabited, Repr

abbrev Record := List (String × Value)

namespace Record

def get? (key : String) : Record → Option Value
  | [] => none
  | (k, v) :: rest => if k = key then some v else get? key rest

/-- The member's value, or null. -/
def get (key : String) (r : Record) : Value := (r.get? key).getD .null

def has (key : String) (r : Record) : Bool := (r.get? key).isSome

/-- Replaces a member in its place, or adds it at the end. -/
def put (key : String) (value : Value) : Record → Record
  | [] => [(key, value)]
  | (k, v) :: rest => if k = key then (k, value) :: rest else (k, v) :: put key value rest

def erase (key : String) (r : Record) : Record := r.filter fun field => field.1 ≠ key

/-- Puts the members of `later` one after another. -/
def update (r later : Record) : Record := later.foldl (fun acc field => put field.1 field.2 acc) r

/-- The record of a list of members, in which a key may come again. -/
def ofList (fields : List (String × Value)) : Record := update [] fields

def keys (r : Record) : List String := r.map Prod.fst

theorem get?_put_same (key : String) (value : Value) (r : Record) :
    get? key (put key value r) = some value := by
  induction r with
  | nil => simp [put, get?]
  | cons field rest ih =>
      obtain ⟨k, v⟩ := field
      by_cases same : k = key
      · simp [put, get?, same]
      · simp [put, get?, same, ih]

theorem get?_put_other (key other : String) (value : Value) (r : Record) (different : other ≠ key) :
    get? other (put key value r) = get? other r := by
  induction r with
  | nil => simp [put, get?, different.symm]
  | cons field rest ih =>
      obtain ⟨k, v⟩ := field
      by_cases same : k = key
      · subst same
        simp [put, get?, different.symm]
      · by_cases hit : k = other
        · subst hit
          simp [put, get?, same]
        · simp [put, get?, same, hit, ih]

end Record

namespace Value

/-- Null, zero and what is empty do not count. -/
def truthy : Value → Bool
  | .null => false
  | .bool b => b
  | .int n => n ≠ 0
  | .real x => !x.isZero
  | .text s => s ≠ ""
  | .list items => !items.isEmpty
  | .record fields => !fields.isEmpty

/-- The value if it counts, else the other one. -/
def orElse (v default : Value) : Value := if v.truthy then v else default

def text? : Value → Option String
  | .text s => some s
  | _ => none

def record? : Value → Option Record
  | .record fields => some fields
  | _ => none

def isNull : Value → Bool
  | .null => true
  | _ => false

/-- The number of a value. Truth values count as one and zero. -/
inductive Numeric where
  | whole (n : Int)
  | real (x : Binary64)
deriving DecidableEq

def numeric? : Value → Option Numeric
  | .bool b => some (.whole (if b then 1 else 0))
  | .int n => some (.whole n)
  | .real x => some (match x.toInt? with | some n => .whole n | none => .real x)
  | _ => none

def Numeric.same : Numeric → Numeric → Bool
  | .whole m, .whole n => m == n
  | .real x, .real y => x.same y
  | _, _ => false

/-- Scalars are alike when they are the same number or the same text. -/
def scalarsAlike (a b : Value) : Bool :=
  match a.numeric?, b.numeric? with
  | some m, some n => m.same n
  | none, none =>
      match a, b with
      | .null, .null => true
      | .text s, .text t => s == t
      | _, _ => false
  | _, _ => false

mutual
/-- Sameness by value: numbers by what they count, records whatever the order of their members. -/
def alike : Value → Value → Bool
  | .list xs, .list ys => itemsAlike xs ys
  | .record fs, .record gs => fs.length == gs.length && fieldsAlike fs gs
  | .list _, _ => false
  | .record _, _ => false
  | a, b => scalarsAlike a b

def itemsAlike : List Value → List Value → Bool
  | [], [] => true
  | x :: xs, y :: ys => alike x y && itemsAlike xs ys
  | _, _ => false

def fieldsAlike : List (String × Value) → Record → Bool
  | [], _ => true
  | (k, v) :: rest, others =>
      (match Record.get? k others with
      | some w => alike v w
      | none => false) && fieldsAlike rest others
end

def isNan : Value → Bool
  | .real x => x.isNan
  | _ => false

/-- Equality of two values that are compared themselves: a NaN equals nothing, not even itself. Inside
lists and records, and among keys, it is the same as itself. -/
def equals (a b : Value) : Bool := a.alike b && !a.isNan

/-- Can the value be a key? Lists and records cannot. -/
def hashable : Value → Bool
  | .list _ => false
  | .record _ => false
  | _ => true

/-- The members of what can be gone through: a list's items, a text's code points, a record's keys. -/
def items? : Value → Option (List Value)
  | .list items => some items
  | .text s => some ((Text.points s.toList).map fun p => .text (String.ofList (Text.ofPoint p)))
  | .record fields => some (fields.map fun field => .text field.1)
  | _ => none

end Value
end EbsiDid
