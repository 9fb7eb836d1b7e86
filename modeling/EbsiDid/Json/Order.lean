import EbsiDid.Json.Value

set_option autoImplicit false

/-!
The order of values: texts by their code points, numbers by what they count. Other values have none,
and neither have a text and a number.
-/
namespace EbsiDid.Value

namespace Numeric

def reading : Numeric → Binary64.Reading
  | .whole n => .finite (n < 0) n.natAbs 0
  | .real x => x.reading

def less (a b : Numeric) : Bool := a.reading.less b.reading

end Numeric

/-- Does the first value stand before the second, or beside it? -/
def notAbove (a b : Value) : Bool :=
  match a, b with
  | .text s, .text t => Text.atMost s t
  | _, _ =>
      match a.numeric?, b.numeric? with
      | some m, some n => !n.less m
      | _, _ => true

/-- Have all the values a place in one order? -/
def comparable (values : List Value) : Bool :=
  values.all (fun v => v.text?.isSome) || values.all (fun v => v.numeric?.isSome)

/-- The values in order. A value alone is in order. -/
def sorted? (values : List Value) : Option (List Value) :=
  if values.length ≤ 1 || comparable values then some (values.mergeSort notAbove) else none

end EbsiDid.Value
