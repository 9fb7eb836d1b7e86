import EbsiDid.Encoding.Utf8
import EbsiDid.Text.Basic

set_option autoImplicit false

/-!
Bytes as hexadecimal text. Lower case is written; either case is read, with blanks between the pairs
of digits.
-/
namespace EbsiDid.Hex

def encodeByte (b : UInt8) : List Char := [Text.hexDigit (b.toNat / 16), Text.hexDigit (b.toNat % 16)]

def encode (bytes : Bytes) : String := String.ofList (bytes.flatMap encodeByte)

def digit? (c : Char) : Option Nat :=
  if '0' ≤ c ∧ c ≤ '9' then some (c.toNat - 0x30)
  else if 'a' ≤ c ∧ c ≤ 'f' then some (c.toNat - 0x57)
  else if 'A' ≤ c ∧ c ≤ 'F' then some (c.toNat - 0x37)
  else none

def isBlank (c : Char) : Bool :=
  c = ' ' || c = '\t' || c = '\n' || c = '\r' || c = '\x0b' || c = '\x0c'

def decodeChars : List Char → Option Bytes
  | [] => some []
  | c :: rest =>
      if isBlank c then decodeChars rest
      else
        match rest with
        | [] => none
        | d :: more => do
            let high ← digit? c
            let low ← digit? d
            let bytes ← decodeChars more
            return UInt8.ofNat (high * 16 + low) :: bytes

def decode (text : String) : Option Bytes := decodeChars text.toList

def hasMark : List Char → Bool
  | '0' :: 'x' :: _ => true
  | '0' :: 'X' :: _ => true
  | _ => false

/-- Drops one leading `0x` or `0X`. -/
def stripMark (text : String) : String :=
  if hasMark text.toList then String.ofList (text.toList.drop 2) else text

def marked (bytes : Bytes) : String := "0x" ++ encode bytes

theorem digit_hexDigit (n : Nat) (small : n < 16) : digit? (Text.hexDigit n) = some n := by
  have all : ∀ k : Fin 16, digit? (Text.hexDigit k.val) = some k.val := by decide
  exact all ⟨n, small⟩

theorem hexDigit_not_blank (n : Nat) (small : n < 16) : isBlank (Text.hexDigit n) = false := by
  have all : ∀ k : Fin 16, isBlank (Text.hexDigit k.val) = false := by decide
  exact all ⟨n, small⟩

theorem decode_encode_chars (bytes : Bytes) : decodeChars (bytes.flatMap encodeByte) = some bytes := by
  induction bytes with
  | nil => rfl
  | cons b rest ih =>
      have bound := b.toNat_lt
      have high : b.toNat / 16 < 16 := by omega
      have low : b.toNat % 16 < 16 := by omega
      have whole : UInt8.ofNat (b.toNat / 16 * 16 + b.toNat % 16) = b := by
        rw [Nat.div_add_mod' b.toNat 16, UInt8.ofNat_toNat]
      simp [encodeByte, decodeChars, hexDigit_not_blank _ high, digit_hexDigit _ high,
        digit_hexDigit _ low, ih, whole, -UInt8.ofNat_add, -UInt8.ofNat_mul]

theorem decode_encode (bytes : Bytes) : decode (encode bytes) = some bytes := by
  simp [decode, encode, decode_encode_chars]

end EbsiDid.Hex
