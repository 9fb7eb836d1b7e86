import EbsiDid.Encoding.Hex
import EbsiDid.Json.Value
import EbsiDid.Number.Decimal

set_option autoImplicit false

/-!
Reading JSON texts, kept as code points are. A text is cut into tokens, one character at a time; the tokens drive a stack of
open lists and records. Both passes are structural, so every text has an answer.

Beside the standard's numbers the words NaN, Infinity and -Infinity are read. A number without point
and exponent is an integer; a numeral of too many digits is refused. Of repeated keys the last one counts. A text nests
as deep as it likes: how much of a stack there is to read it with is no matter of the text.
-/
namespace EbsiDid.Json

inductive ReadError where
  | malformed
  | tooManyDigits
deriving DecidableEq, Repr

inductive Token where
  | openList
  | closeList
  | openRecord
  | closeRecord
  | colon
  | comma
  | text (s : String)
  | scalar (v : Value)
  | fault (e : ReadError)

/-! ### Texts -/

def hex4? (a b c d : Char) : Option Nat := do
  return ((← Hex.digit? a) * 16 + (← Hex.digit? b)) * 256 + ((← Hex.digit? c) * 16 + (← Hex.digit? d))

def simpleEscape? : Char → Option Char
  | '"' => some '"'
  | '\\' => some '\\'
  | '/' => some '/'
  | 'b' => some '\x08'
  | 'f' => some '\x0c'
  | 'n' => some '\n'
  | 'r' => some '\r'
  | 't' => some '\t'
  | _ => none

/-- A piece of a text between quotes: a character, or a UTF-16 unit by its number. -/
inductive Piece where
  | plain (c : Char)
  | unit (u : Nat)

/-- The characters of pieces. Two units that make a pair are one character; one that stands alone is
kept as it is. -/
def joined : List Piece → List Char
  | [] => []
  | .plain c :: rest => c :: joined rest
  | [.unit u] => Text.ofPoint u
  | .unit u :: .plain c :: rest => Text.ofPoint u ++ c :: joined rest
  | .unit u :: .unit v :: rest =>
      if 0xd800 ≤ u ∧ u < 0xdc00 ∧ 0xdc00 ≤ v ∧ v < 0xe000 then
        Text.ofPoint (0x10000 + (u - 0xd800) * 0x400 + (v - 0xdc00)) ++ joined rest
      else Text.ofPoint u ++ joined (.unit v :: rest)

/-- The pieces between two quotes. Control characters are refused. -/
def pieces? : List Char → Option (List Piece)
  | [] => some []
  | '\\' :: 'u' :: a :: b :: c :: d :: rest => do
      let u ← hex4? a b c d
      let more ← pieces? rest
      return .unit u :: more
  | '\\' :: c :: rest => do
      let e ← simpleEscape? c
      let more ← pieces? rest
      return .plain e :: more
  | c :: rest =>
      if c = '\\' ∨ c.toNat < 0x20 then none else (pieces? rest).map (.plain c :: ·)

def textToken (raw : List Char) : Token :=
  match pieces? raw with
  | some pieces => .text (String.ofList (joined pieces))
  | none => .fault .malformed

/-! ### Words and numbers -/

def asciiDigit? (c : Char) : Option Nat :=
  if '0' ≤ c ∧ c ≤ '9' then some (c.toNat - 0x30) else none

/-- Digits with which a number starts: one at least, and no needless zero. -/
def wellStarted : List Nat → Bool
  | [] => false
  | 0 :: _ :: _ => false
  | _ => true

/-- A number without sign, by its digits in front and what follows them: nothing, a part and perhaps an
exponent, or an exponent alone. Each has a digit at least. -/
def numeralToken (negative : Bool) (whole : List Nat) (rest : List Char) : Token :=
  let refused : Token := .fault (if whole.length > Number.digitLimit then .tooManyDigits else .malformed)
  match rest with
  | [] =>
      if whole.length > Number.digitLimit then .fault .tooManyDigits
      else .scalar (.int (Number.negateIf negative (Number.ofDigits 10 whole)))
  | '.' :: more =>
      let (part, tail) := Number.leadingDigits asciiDigit? more
      if part.isEmpty then refused
      else
        match Number.exponent? asciiDigit? tail with
        | some e => .scalar (.real ((Number.Numeral.mk whole part e).toBinary64 negative))
        | none => .fault .malformed
  | tail =>
      match Number.exponent? asciiDigit? tail with
      | some e => .scalar (.real ((Number.Numeral.mk whole [] e).toBinary64 negative))
      | none => refused

def numberToken (negative : Bool) (chars : List Char) : Token :=
  let (whole, rest) := Number.leadingDigits asciiDigit? chars
  if wellStarted whole then numeralToken negative whole rest else .fault .malformed

def wordToken (word : List Char) : Token :=
  match String.ofList word with
  | "null" => .scalar .null
  | "true" => .scalar (.bool true)
  | "false" => .scalar (.bool false)
  | "NaN" => .scalar (.real Binary64.nan)
  | "Infinity" => .scalar (.real (Binary64.infinity false))
  | "-Infinity" => .scalar (.real (Binary64.infinity true))
  | _ =>
      match word with
      | '-' :: rest => numberToken true rest
      | _ => numberToken false word

def isWordChar (c : Char) : Bool :=
  c.isAlphanum || c = '-' || c = '+' || c = '.'

def isSpace (c : Char) : Bool := c = ' ' || c = '\t' || c = '\n' || c = '\r'

/-! ### Tokens -/

/-- Where the cutting stands: between tokens, in a word, or in a text, right after a backslash or
not. What was read of the token stands in reverse. -/
inductive Cut where
  | between
  | word (read : List Char)
  | text (read : List Char)
  | escaped (read : List Char)
  | stopped

/-- A character with which a token starts. -/
def begin (c : Char) : List Token × Cut :=
  if isSpace c then ([], .between)
  else if c = '"' then ([], .text [])
  else if isWordChar c then ([], .word [c])
  else match c with
    | '[' => ([.openList], .between)
    | ']' => ([.closeList], .between)
    | '{' => ([.openRecord], .between)
    | '}' => ([.closeRecord], .between)
    | ':' => ([.colon], .between)
    | ',' => ([.comma], .between)
    | _ => ([.fault .malformed], .stopped)

def advance : Cut → Char → List Token × Cut
  | .between, c => begin c
  | .word read, c =>
      if isWordChar c then ([], .word (c :: read))
      else
        let (tokens, next) := begin c
        (wordToken read.reverse :: tokens, next)
  | .text read, c =>
      if c = '"' then ([textToken read.reverse], .between)
      else if c = '\\' then ([], .escaped (c :: read))
      else ([], .text (c :: read))
  | .escaped read, c => ([], .text (c :: read))
  | .stopped, _ => ([], .stopped)

def finish : Cut → List Token
  | .between => []
  | .word read => [wordToken read.reverse]
  | .text _ => [.fault .malformed]
  | .escaped _ => [.fault .malformed]
  | .stopped => []

def tokensFrom : Cut → List Char → List Token
  | cut, [] => finish cut
  | cut, c :: rest =>
      let (tokens, next) := advance cut c
      tokens ++ tokensFrom next rest

def tokens (chars : List Char) : List Token := tokensFrom .between chars

/-! ### Values -/

/-- A list or a record that is still open: its members so far, in reverse, or in order. -/
inductive Frame where
  | list (read : List Value)
  | record (read : Record) (key : String)

/-- What may come next. -/
inductive Awaiting where
  | value
  | firstItem
  | firstKey
  | key (read : Record)
  | colon (read : Record) (key : String)
  | separator
  | nothing (v : Value)

structure State where
  stack : List Frame
  awaiting : Awaiting

/-- A value is complete: it goes into the innermost open list or record. -/
def State.close (frames : List Frame) (v : Value) : State :=
  match frames with
  | [] => ⟨[], .nothing v⟩
  | .list read :: outer => ⟨.list (v :: read) :: outer, .separator⟩
  | .record read key :: outer => ⟨.record (read.put key v) key :: outer, .separator⟩

def State.value (frames : List Frame) : Token → Except ReadError State
  | .openList => .ok ⟨.list [] :: frames, .firstItem⟩
  | .openRecord => .ok ⟨frames, .firstKey⟩
  | .text s => .ok (.close frames (.text s))
  | .scalar v => .ok (.close frames v)
  | .fault e => .error e
  | _ => .error .malformed

def State.keyOf (frames : List Frame) (read : Record) : Token → Except ReadError State
  | .text s => .ok ⟨frames, .colon read s⟩
  | .fault _ => .error .malformed
  | _ => .error .malformed

def State.step : State → Token → Except ReadError State
  | ⟨frames, .value⟩, t => State.value frames t
  | ⟨.list [] :: outer, .firstItem⟩, .closeList => .ok (.close outer (.list []))
  | ⟨frames, .firstItem⟩, t => State.value frames t
  | ⟨frames, .firstKey⟩, .closeRecord => .ok (.close frames (.record []))
  | ⟨frames, .firstKey⟩, t => State.keyOf frames [] t
  | ⟨frames, .key read⟩, t => State.keyOf frames read t
  | ⟨frames, .colon read key⟩, .colon => .ok ⟨.record read key :: frames, .value⟩
  | ⟨.list read :: outer, .separator⟩, .comma => .ok ⟨.list read :: outer, .value⟩
  | ⟨.list read :: outer, .separator⟩, .closeList => .ok (.close outer (.list read.reverse))
  | ⟨.record read _ :: outer, .separator⟩, .comma => .ok ⟨outer, .key read⟩
  | ⟨.record read _ :: outer, .separator⟩, .closeRecord => .ok (.close outer (.record read))
  | _, _ => .error .malformed

def State.run : State → List Token → Except ReadError Value
  | ⟨[], .nothing v⟩, [] => .ok v
  | _, [] => .error .malformed
  | s, t :: rest =>
      match s.step t with
      | .ok next => next.run rest
      | .error e => .error e

def read (text : String) : Except ReadError Value :=
  State.run ⟨[], .value⟩ (tokens text.toList)

end EbsiDid.Json
