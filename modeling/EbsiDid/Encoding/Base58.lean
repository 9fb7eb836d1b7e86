import EbsiDid.Encoding.Utf8
import EbsiDid.Text.Basic

set_option autoImplicit false

/-!
Base 58 in the alphabet without 0, O, I and l. A leading zero byte is a leading `1`.
-/
namespace EbsiDid.Base58

def alphabet : List Char :=
  "123456789ABCDEFGHJKLMNPQRSTUVWXYZabcdefghijkmnopqrstuvwxyz".toList

def char (n : Nat) : Char := alphabet.getD n '1'

def value? (c : Char) : Option Nat := alphabet.idxOf? c

/-- The digits of a number, the most significant one first. Zero has none. -/
def digits (n : Nat) : List Nat :=
  if n = 0 then [] else digits (n / 58) ++ [n % 58]
termination_by n
decreasing_by omega

def encodeChars (bytes : Bytes) : List Char :=
  List.replicate (bytes.takeWhile (· == 0)).length '1' ++ (digits (Encoding.toNat bytes)).map char

def encode (bytes : Bytes) : String := String.ofList (encodeChars bytes)

inductive Fault where
  | notAscii
  | notInAlphabet
deriving DecidableEq, Repr

def decodeChars (chars : List Char) : Option Bytes := do
  let digits ← (chars.dropWhile (· == '1')).mapM value?
  let number := digits.foldl (fun acc d => acc * 58 + d) 0
  return List.replicate (chars.takeWhile (· == '1')).length 0 ++ Encoding.minimalBytes number

/-- Reads a text after which blanks may stand. -/
def decode (text : String) : Except Fault Bytes :=
  let chars := Text.trimRight text.toList
  if chars.any fun c => 0x80 ≤ c.toNat then .error .notAscii
  else
    match decodeChars chars with
    | some bytes => .ok bytes
    | none => .error .notInAlphabet

end EbsiDid.Base58
