import EbsiDid.Text.Point

set_option autoImplicit false

/-!
UTF-8, and natural numbers as big-endian bytes.
-/
namespace EbsiDid

abbrev Bytes := List UInt8

namespace Encoding

def utf8Point (n : Nat) : Bytes :=
  if n < 0x80 then [.ofNat n]
  else if n < 0x800 then [.ofNat (0xc0 + n / 64), .ofNat (0x80 + n % 64)]
  else if n < 0x10000 then
    [.ofNat (0xe0 + n / 4096), .ofNat (0x80 + n / 64 % 64), .ofNat (0x80 + n % 64)]
  else
    [.ofNat (0xf0 + n / 262144), .ofNat (0x80 + n / 4096 % 64), .ofNat (0x80 + n / 64 % 64),
     .ofNat (0x80 + n % 64)]

def utf8 (text : String) : Bytes := (Text.points text.toList).flatMap utf8Point

/-- As `utf8`. A surrogate has no encoding. -/
def utf8? (text : String) : Option Bytes := if Text.hasSurrogate text then none else some (utf8 text)

/-- Exactly `width` bytes, the last ones of `n`. -/
def bigEndian : Nat → Nat → Bytes
  | 0, _ => []
  | width + 1, n => bigEndian width (n / 256) ++ [UInt8.ofNat (n % 256)]

/-- The number that bytes spell, the most significant one first. -/
def toNat (bytes : Bytes) : Nat := bytes.foldl (fun acc b => acc * 256 + b.toNat) 0

/-- How many bytes a number needs. Zero needs none. -/
def byteLength (n : Nat) : Nat := if n = 0 then 0 else n.log2 / 8 + 1

/-- A number without leading zero bytes. -/
def minimalBytes (n : Nat) : Bytes := bigEndian (byteLength n) n

theorem bigEndian_length (width n : Nat) : (bigEndian width n).length = width := by
  induction width generalizing n with
  | zero => rfl
  | succ width ih => simp [bigEndian, ih]

theorem toNat_append (front : Bytes) (last : UInt8) :
    toNat (front ++ [last]) = toNat front * 256 + last.toNat := by
  simp [toNat]

theorem toNat_bigEndian (width n : Nat) (fits : n < Nat.pow 256 width) : toNat (bigEndian width n) = n := by
  induction width generalizing n with
  | zero => simp [bigEndian, toNat] at *; omega
  | succ width ih =>
      have small : n / 256 < Nat.pow 256 width := by
        rw [Nat.div_lt_iff_lt_mul (by decide)]
        exact fits
      rw [bigEndian, toNat_append, ih _ small]
      have low : (UInt8.ofNat (n % 256)).toNat = n % 256 := by
        rw [UInt8.toNat_ofNat']
        omega
      omega

theorem bigEndian_toNat {width : Nat} {bytes : Bytes} (length : bytes.length = width) :
    bigEndian width (toNat bytes) = bytes := by
  induction width generalizing bytes with
  | zero => rw [List.eq_nil_of_length_eq_zero length, bigEndian]
  | succ width ih =>
      obtain rfl | ⟨front, last, rfl⟩ := List.eq_nil_or_concat bytes
      · cases length
      · have shorter : front.length = width := by simpa using length
        have bound := last.toNat_lt
        have quotient : (toNat front * 256 + last.toNat) / 256 = toNat front := by omega
        have remainder : (toNat front * 256 + last.toNat) % 256 = last.toNat := by omega
        rw [List.concat_eq_append, toNat_append, bigEndian, quotient, remainder, ih shorter, UInt8.ofNat_toNat]

end Encoding
end EbsiDid
