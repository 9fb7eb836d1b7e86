import EbsiDid.Text.Class
import EbsiDid.Text.Point

set_option autoImplicit false

/-!
Trimming, ASCII case and the text of numbers. Texts are handled as lists of characters, so that
each function is a recursion on the text.
-/
namespace EbsiDid.Text

def trimLeft (chars : List Char) : List Char := chars.dropWhile isBlank

def trimRight (chars : List Char) : List Char := (trimLeft chars.reverse).reverse

/-- Removes blanks from both ends. -/
def trimChars (chars : List Char) : List Char := trimRight (trimLeft chars)

def trim (text : String) : String := String.ofList (trimChars text.toList)

/-- Lower case, as far as it can lead to an ASCII letter: the capital letters and the Kelvin sign. -/
def lowerChar (c : Char) : Char :=
  if c = '\u212a' then 'k' else c.toLower

def lower (text : String) : String := String.ofList (text.toList.map lowerChar)

/-- Are the texts equal up to the case of their letters? -/
def sameLetters (a b : String) : Bool := lower a == lower b

def hexDigit (n : Nat) : Char :=
  if n < 10 then Char.ofNat (0x30 + n) else Char.ofNat (0x57 + n)

/-- Exactly `width` hexadecimal digits, the last ones of `n`. -/
def hexPadded : Nat → Nat → List Char
  | 0, _ => []
  | width + 1, n => hexPadded width (n / 16) ++ [hexDigit (n % 16)]

/-- The order of sequences: by the first place where they differ, a front part before the whole. -/
def sequenceAtMost : List Nat → List Nat → Bool
  | [], _ => true
  | _ :: _, [] => false
  | p :: ps, q :: qs => if p = q then sequenceAtMost ps qs else decide (p < q)

/-- The order of texts is that of their code points. -/
def atMost (a b : String) : Bool := sequenceAtMost (points a.toList) (points b.toList)

def insertSorted (text : String) : List String → List String
  | [] => [text]
  | first :: rest => if atMost text first then text :: first :: rest else first :: insertSorted text rest

/-- In the order of their code points. -/
def sorted : List String → List String
  | [] => []
  | text :: rest => insertSorted text (sorted rest)

def joined (separator : String) (parts : List String) : String := String.intercalate separator parts

end EbsiDid.Text
