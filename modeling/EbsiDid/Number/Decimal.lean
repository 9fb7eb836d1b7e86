import EbsiDid.Number.Binary64

set_option autoImplicit false

/-!
Decimal numerals with a point and an exponent, and the doubles that they name.
-/
namespace EbsiDid.Number

/-- A numeral in parts: digits before and after the point, and the exponent. -/
structure Numeral where
  whole : List Nat
  part : List Nat
  exponent : Int
deriving DecidableEq, Repr

def Numeral.toBinary64 (n : Numeral) (negative : Bool) : Binary64 :=
  Binary64.ofDecimal negative (ofDigits 10 (n.whole ++ n.part)) (n.exponent - n.part.length)

/-- The leading digits of a text, with the rest. -/
def leadingDigits (value? : Char → Option Nat) : List Char → List Nat × List Char
  | [] => ([], [])
  | c :: rest =>
      match value? c with
      | some d => let (ds, left) := leadingDigits value? rest; (d :: ds, left)
      | none => ([], c :: rest)

/-- An exponent that spans the whole text. A missing one is zero. -/
def exponent? (value? : Char → Option Nat) : List Char → Option Int
  | [] => some 0
  | c :: rest =>
      if c = 'e' ∨ c = 'E' then
        let (negative, numeral) := signed rest
        match leadingDigits value? numeral with
        | ([], _) => none
        | (ds, []) => some (negateIf negative (ofDigits 10 ds))
        | _ => none
      else none

/-- A numeral without sign; one of the digit runs beside the point may be empty. -/
def numeral? (value? : Char → Option Nat) (chars : List Char) : Option Numeral :=
  let (whole, rest) := leadingDigits value? chars
  let (part, tail) :=
    match rest with
    | '.' :: more => leadingDigits value? more
    | _ => ([], rest)
  if whole.isEmpty && part.isEmpty then none
  else (exponent? value? tail).map fun e => ⟨whole, part, e⟩

/-- Single underscores are dropped where they stand between digits, and refused elsewhere. -/
def withoutUnderscores? (value? : Char → Option Nat) : Bool → List Char → Option (List Char)
  | _, [] => some []
  | afterDigit, '_' :: c :: rest =>
      if afterDigit ∧ (value? c).isSome then (withoutUnderscores? value? true rest).map (c :: ·) else none
  | _, c :: rest =>
      if c = '_' then none
      else (withoutUnderscores? value? (value? c).isSome rest).map (c :: ·)

/-- Reads a number in a text: a decimal, or a word for infinity or for no number. -/
def real? (text : String) : Option Binary64 := do
  let chars ← withoutUnderscores? Text.digitValue? false (numeralChars text)
  let (negative, magnitude) := signed chars
  let word := String.ofList (magnitude.map Char.toLower)
  if word = "inf" ∨ word = "infinity" then return Binary64.infinity negative
  if word = "nan" then return Binary64.nan
  let numeral ← numeral? Text.digitValue? magnitude
  return numeral.toBinary64 negative

end EbsiDid.Number
