import EbsiDid.Encoding.Base64

set_option autoImplicit false

/-!
Base 64 for URLs, without padding, and its reading. Four characters spell three bytes; the two or three characters of a
last group spell one byte or two.
-/
namespace EbsiDid.Base64

def value? (c : Char) : Option Nat :=
  if 'A' ≤ c ∧ c ≤ 'Z' then some (c.toNat - 0x41)
  else if 'a' ≤ c ∧ c ≤ 'z' then some (c.toNat - 0x61 + 26)
  else if '0' ≤ c ∧ c ≤ '9' then some (c.toNat - 0x30 + 52)
  else if c = '-' then some 62
  else if c = '_' then some 63
  else none

def decodeChars : List Char → Option Bytes
  | [] => some []
  | [_] => none
  | [a, b] => do
      let p ← value? a
      let q ← value? b
      return [UInt8.ofNat (p * 4 + q / 16)]
  | [a, b, c] => do
      let p ← value? a
      let q ← value? b
      let r ← value? c
      return [UInt8.ofNat (p * 4 + q / 16), UInt8.ofNat (q % 16 * 16 + r / 4)]
  | a :: b :: c :: d :: rest => do
      let p ← value? a
      let q ← value? b
      let r ← value? c
      let s ← value? d
      let more ← decodeChars rest
      return UInt8.ofNat (p * 4 + q / 16) :: UInt8.ofNat (q % 16 * 16 + r / 4) :: UInt8.ofNat (r % 4 * 64 + s) :: more

def decode (text : String) : Option Bytes := decodeChars text.toList

theorem value_char {n : Nat} (small : n < 64) : value? (url.char n) = some n := by
  have all : ∀ k : Fin 64, value? (url.char k.val) = some k.val := by decide
  exact all ⟨n, small⟩

theorem url_pad (count : Nat) : url.pad count = [] := rfl

-- What holds of the alphabet holds of every character that is written.
theorem char_in_alphabet {P : Char → Prop} (all : ∀ k : Fin 64, P (url.char k.val)) (n : Nat) : P (url.char n) := by
  by_cases small : n < 64
  · exact all ⟨n, small⟩
  · have last : url.char n = url.char 63 := by
      rw [Style.char, if_neg (by omega), if_neg (by omega), if_neg (by omega), if_neg (by omega)]
      rfl
    rw [last]
    exact all 63

theorem encoded_in_alphabet {P : Char → Prop} (all : ∀ k : Fin 64, P (url.char k.val)) (bytes : Bytes) :
    ∀ c ∈ encodeChars url bytes, P c := by
  have each := char_in_alphabet all
  fun_induction encodeChars url bytes with
  | case1 => exact nofun
  | case2 a => simp [url_pad, each]
  | case3 a b => simp [url_pad, each]
  | case4 a b c rest ih =>
      simp only [List.forall_mem_cons, each, true_and]
      exact ih

theorem byte_of {n : Nat} {b : UInt8} (same : n = b.toNat) : UInt8.ofNat n = b := by
  rw [same, UInt8.ofNat_toNat]

theorem decode_encode_chars (bytes : Bytes) : decodeChars (encodeChars url bytes) = some bytes := by
  fun_induction encodeChars url bytes with
  | case1 => rfl
  | case2 a =>
      have first := a.toNat_lt
      have high : a.toNat / 4 < 64 := by omega
      have low : a.toNat % 4 * 16 < 64 := by omega
      have whole : a.toNat / 4 * 4 + a.toNat % 4 * 16 / 16 = a.toNat := by omega
      simp only [url_pad, List.append_nil, decodeChars, value_char high, value_char low, bind, Option.bind, byte_of whole]
      rfl
  | case3 a b =>
      have first := a.toNat_lt
      have second := b.toNat_lt
      have high : a.toNat / 4 < 64 := by omega
      have middle : a.toNat % 4 * 16 + b.toNat / 16 < 64 := by omega
      have low : b.toNat % 16 * 4 < 64 := by omega
      have one : a.toNat / 4 * 4 + (a.toNat % 4 * 16 + b.toNat / 16) / 16 = a.toNat := by omega
      have two : (a.toNat % 4 * 16 + b.toNat / 16) % 16 * 16 + b.toNat % 16 * 4 / 4 = b.toNat := by omega
      simp only [url_pad, List.append_nil, decodeChars, value_char high, value_char middle, value_char low, bind, Option.bind,
        byte_of one, byte_of two]
      rfl
  | case4 a b c rest ih =>
      have first := a.toNat_lt
      have second := b.toNat_lt
      have third := c.toNat_lt
      have high : a.toNat / 4 < 64 := by omega
      have middle : a.toNat % 4 * 16 + b.toNat / 16 < 64 := by omega
      have lower : b.toNat % 16 * 4 + c.toNat / 64 < 64 := by omega
      have low : c.toNat % 64 < 64 := by omega
      have one : a.toNat / 4 * 4 + (a.toNat % 4 * 16 + b.toNat / 16) / 16 = a.toNat := by omega
      have two : (a.toNat % 4 * 16 + b.toNat / 16) % 16 * 16 + (b.toNat % 16 * 4 + c.toNat / 64) / 4 = b.toNat := by omega
      have three : (b.toNat % 16 * 4 + c.toNat / 64) % 4 * 64 + c.toNat % 64 = c.toNat := by omega
      simp only [decodeChars, value_char high, value_char middle, value_char lower, value_char low, ih, bind, Option.bind,
        byte_of one, byte_of two, byte_of three]
      rfl

theorem decode_encode (bytes : Bytes) : decode (encode url bytes) = some bytes := by
  rw [decode, encode, String.toList_ofList, decode_encode_chars]

theorem encode_length (bytes : Bytes) : (encode url bytes).length = (bytes.length * 4 + 2) / 3 := by
  rw [encode, String.length_ofList]
  fun_induction encodeChars url bytes with
  | case1 => rfl
  | case2 a => simp [url_pad]
  | case3 a b => simp [url_pad]
  | case4 a b c rest ih =>
      simp only [List.length_cons, ih]
      omega

end EbsiDid.Base64
