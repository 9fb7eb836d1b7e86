import EbsiDid.Json.Value
import EbsiDid.Number.Shortest

set_option autoImplicit false

/-!
JSON texts. A layout says how items and keys are set apart, whether only ASCII is written, and by
how many spaces nested lines go in.
-/
namespace EbsiDid.Json

structure Layout where
  itemSeparator : String
  keySeparator : String
  asciiOnly : Bool
  indent : Option Nat

/-- On one line, with a space after commas and colons. -/
def spaced : Layout := ⟨", ", ": ", true, none⟩

/-- Without any space, and with every character as it is. -/
def compact : Layout := ⟨",", ":", false, none⟩

/-- One member a line, two spaces deeper at each level. -/
def indented : Layout := ⟨",", ": ", true, some 2⟩

def realWords : Binary64.Words := ⟨"NaN", "Infinity"⟩

def escape4 (n : Nat) : List Char := '\\' :: 'u' :: Text.hexPadded 4 n

/-- The escape of a character by its UTF-16 units. -/
def escapeUnits (c : Char) : List Char :=
  if c.toNat < 0x10000 then escape4 c.toNat
  else escape4 (0xd800 + (c.toNat - 0x10000) / 0x400) ++ escape4 (0xdc00 + (c.toNat - 0x10000) % 0x400)

def writtenChar (asciiOnly : Bool) (c : Char) : List Char :=
  if c = '"' then ['\\', '"']
  else if c = '\\' then ['\\', '\\']
  else if c = '\n' then ['\\', 'n']
  else if c = '\r' then ['\\', 'r']
  else if c = '\t' then ['\\', 't']
  else if c = '\x08' then ['\\', 'b']
  else if c = '\x0c' then ['\\', 'f']
  else if c.toNat < 0x20 then escape4 c.toNat
  else if asciiOnly ∧ 0x7f ≤ c.toNat then escapeUnits c
  else Text.ofPoint c.toNat

def writtenPoint (asciiOnly : Bool) (point : Nat) : List Char :=
  if Text.isSurrogate point then (if asciiOnly then escape4 point else Text.ofPoint point)
  else writtenChar asciiOnly (Char.ofNat point)

def writtenText (asciiOnly : Bool) (s : String) : String :=
  String.ofList ('"' :: ((Text.points s.toList).flatMap (writtenPoint asciiOnly) ++ ['"']))

/-- A new line at a depth, if the layout has lines. -/
def Layout.line (l : Layout) (depth : Nat) : String :=
  match l.indent with
  | none => ""
  | some step => "\n" ++ String.ofList (List.replicate (step * depth) ' ')

/-- Members between brackets, one level below `depth`. -/
def Layout.enclosed (l : Layout) (depth : Nat) (opening closing : String) (parts : List String) : String :=
  if parts.isEmpty then opening ++ closing
  else
    opening ++ l.line (depth + 1) ++ Text.joined (l.itemSeparator ++ l.line (depth + 1)) parts
      ++ l.line depth ++ closing

mutual
def writeAt (l : Layout) (depth : Nat) : Value → String
  | .null => "null"
  | .bool b => if b then "true" else "false"
  | .int n => Number.text n
  | .real x => x.text realWords
  | .text s => writtenText l.asciiOnly s
  | .list items => l.enclosed depth "[" "]" (writeItems l (depth + 1) items)
  | .record fields => l.enclosed depth "\x7b" "\x7d" (writeFields l (depth + 1) fields)

def writeItems (l : Layout) (depth : Nat) : List Value → List String
  | [] => []
  | v :: rest => writeAt l depth v :: writeItems l depth rest

def writeFields (l : Layout) (depth : Nat) : List (String × Value) → List String
  | [] => []
  | (k, v) :: rest =>
      (writtenText l.asciiOnly k ++ l.keySeparator ++ writeAt l depth v) :: writeFields l depth rest
end

def write (l : Layout) (v : Value) : String := writeAt l 0 v

end EbsiDid.Json
