import EbsiDid.Text.Basic

set_option autoImplicit false

/-!
Integers in texts. Blanks around the numeral are ignored, one sign may lead, single underscores may
stand between digits, and digits may come from any script.
-/
namespace EbsiDid.Number

/-- Numerals in base ten are read up to this many digits. -/
def digitLimit : Nat := 4300

/-- Digits of one numeral, with single underscores between them. -/
def digits? (value? : Char → Option Nat) : List Char → Option (List Nat)
  | [] => none
  | [c] => (value? c).map ([·])
  | c :: '_' :: rest => do
      let d ← value? c
      let ds ← digits? value? rest
      return d :: ds
  | c :: rest => do
      let d ← value? c
      let ds ← digits? value? rest
      return d :: ds

def ofDigits (base : Nat) (digits : List Nat) : Nat :=
  digits.foldl (fun acc d => acc * base + d) 0

def hexValue? (c : Char) : Option Nat :=
  if 'a' ≤ c ∧ c ≤ 'f' then some (c.toNat - 0x57)
  else if 'A' ≤ c ∧ c ≤ 'F' then some (c.toNat - 0x37)
  else Text.digitValue? c

/-- A leading sign, with what follows it. -/
def signed : List Char → Bool × List Char
  | '-' :: rest => (true, rest)
  | '+' :: rest => (false, rest)
  | chars => (false, chars)

def negateIf (negative : Bool) (n : Nat) : Int := if negative then -(n : Int) else n

/-- Blanks that may stand around a numeral: the four information separators are none. -/
def isBlank (c : Char) : Bool := Text.isBlank c && !(0x1c ≤ c.toNat && c.toNat ≤ 0x1f)

/-- A digit of any script as the digit of ASCII. -/
def plain (c : Char) : Char :=
  match Text.digitValue? c with
  | some d => Char.ofNat (0x30 + d)
  | none => c

/-- The characters of a numeral without the blanks around it, its digits plain. -/
def numeralChars (text : String) : List Char :=
  let started := text.toList.dropWhile isBlank
  ((started.reverse.dropWhile isBlank).reverse).map plain

def decimal? (text : String) : Option Int := do
  let (negative, numeral) := signed (numeralChars text)
  let ds ← digits? Text.digitValue? numeral
  if ds.length > digitLimit then none else return negateIf negative (ofDigits 10 ds)

/-- Drops the mark of base sixteen, with the underscore that may follow it. -/
def afterHexMark : List Char → List Char
  | '0' :: 'x' :: '_' :: rest => rest
  | '0' :: 'X' :: '_' :: rest => rest
  | '0' :: 'x' :: rest => rest
  | '0' :: 'X' :: rest => rest
  | chars => chars

def hexadecimal? (text : String) : Option Int := do
  let (negative, numeral) := signed (numeralChars text)
  let ds ← digits? hexValue? (afterHexMark numeral)
  return negateIf negative (ofDigits 16 ds)

def digitsOf (n : Nat) : List Char := Nat.toDigits 10 n

def text (n : Int) : String :=
  match n with
  | .ofNat k => String.ofList (digitsOf k)
  | .negSucc k => String.ofList ('-' :: digitsOf (k + 1))

end EbsiDid.Number
