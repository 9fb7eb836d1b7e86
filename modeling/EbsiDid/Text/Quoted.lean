import EbsiDid.Text.Basic

set_option autoImplicit false

/-!
Quoted text as it appears inside messages: the apostrophe quotes, unless the text holds one and no
double quote; what is not printable is written by its code point.
-/
namespace EbsiDid.Text

def quoteMark (chars : List Char) : Char :=
  if chars.contains '\'' && !chars.contains '"' then '"' else '\''

def quotedChar (mark c : Char) : List Char :=
  if c = mark || c = '\\' then ['\\', c]
  else if c = '\n' then ['\\', 'n']
  else if c = '\r' then ['\\', 'r']
  else if c = '\t' then ['\\', 't']
  else if isPrintable c then [c]
  else if c.toNat < 0x100 then '\\' :: 'x' :: hexPadded 2 c.toNat
  else if c.toNat < 0x10000 then '\\' :: 'u' :: hexPadded 4 c.toNat
  else '\\' :: 'U' :: hexPadded 8 c.toNat

def quotedPoint (mark : Char) (point : Nat) : List Char :=
  if isSurrogate point then '\\' :: 'u' :: hexPadded 4 point else quotedChar mark (Char.ofNat point)

def quotedChars (chars : List Char) : List Char :=
  let mark := quoteMark chars
  mark :: ((points chars).flatMap (quotedPoint mark) ++ [mark])

def quoted (text : String) : String := String.ofList (quotedChars text.toList)

end EbsiDid.Text
