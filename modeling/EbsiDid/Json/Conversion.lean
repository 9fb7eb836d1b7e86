import EbsiDid.Error.Kind
import EbsiDid.Json.Value
import EbsiDid.Number.Decimal

set_option autoImplicit false

/-!
The integer and the double that a value gives. A text gives the number that it spells; a failure is
of a family of its own for what is no number, for a number out of range, and for other values.
-/
namespace EbsiDid.Value

/-- The integer that a value gives: its own, its integer part, or the one that its text spells. -/
def toInteger : Value → Except Kind Int
  | .bool b => .ok (if b then 1 else 0)
  | .int n => .ok n
  | .real x =>
      match x.reading with
      | .nan => .error .badValue
      | .infinite _ => .error .overflow
      | .finite negative m q => .ok (Binary64.truncate negative m q)
  | .text s =>
      match Number.decimal? s with
      | some n => .ok n
      | none => .error .badValue
  | _ => .error .wrongType

/-- The double that a value gives. -/
def toReal : Value → Except Kind Binary64
  | .bool b => .ok (Binary64.ofRatio false (if b then 1 else 0) 1)
  | .int n =>
      match Binary64.ofInt? n with
      | some x => .ok x
      | none => .error .overflow
  | .real x => .ok x
  | .text s =>
      match Number.real? s with
      | some x => .ok x
      | none => .error .badValue
  | _ => .error .wrongType

/-- The integer that a value is. Truth values are one and zero. -/
def whole? : Value → Option Int
  | .bool b => some (if b then 1 else 0)
  | .int n => some n
  | _ => none

end EbsiDid.Value
