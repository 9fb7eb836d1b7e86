import EbsiDid.Proofs.Encoding.Base58
import EbsiDid.Proofs.Encoding.Hex
import Mathlib.Data.List.Forall2

set_option autoImplicit false

/-!
The number that hexadecimal digits spell, in either case, and the bytes that they are. It is the number of the bytes,
with the first of them in front.
-/
namespace EbsiDid.Number

-- The two digits of each byte.
def halves (bytes : Bytes) : List Nat := bytes.flatMap fun b => [b.toNat / 16, b.toNat % 16]

theorem halves_below (bytes : Bytes) : ∀ d ∈ halves bytes, d < 16 := by
  intro d member
  obtain ⟨b, _, half⟩ := List.mem_flatMap.mp member
  have bound := b.toNat_lt
  simp only [List.mem_cons, List.not_mem_nil, or_false] at half
  rcases half with rfl | rfl <;> omega

theorem halves_length (bytes : Bytes) : (halves bytes).length = 2 * bytes.length := by
  induction bytes with
  | nil => rfl
  | cons b rest ih =>
      rw [halves, List.flatMap_cons, List.length_append, ← halves, ih, List.length_cons]
      simp only [List.length_cons, List.length_nil]
      omega

theorem halves_value (bytes : Bytes) : ofDigits 16 (halves bytes) = Encoding.toNat bytes := by
  induction bytes with
  | nil => rfl
  | cons b rest ih =>
      have byte : ofDigits 16 [b.toNat / 16, b.toNat % 16] = b.toNat := by
        simp only [ofDigits, List.foldl_cons, List.foldl_nil]
        omega
      have places : 16 ^ (halves rest).length = 256 ^ rest.length := by
        rw [halves_length, Nat.pow_mul]
      rw [halves, List.flatMap_cons, ← halves, of_digits_append, byte, places, ih, Encoding.to_nat_cons]

/-! ### Digits as they are written -/

-- Characters for digits, one for each.
def Digits (ds : List Nat) (chars : List Char) : Prop := List.Forall₂ Hex.IsDigit ds chars

instance (ds : List Nat) (chars : List Char) : Decidable (Digits ds chars) :=
  inferInstanceAs (Decidable (List.Forall₂ Hex.IsDigit ds chars))

-- Nothing that is dropped or changed before a numeral is read.
structure Solid (c : Char) : Prop where
  blank : isBlank c = false
  plain : plain c = c

-- No sign and no part of a mark either.
structure Plain (c : Char) : Prop extends Solid c where
  unsigned : c ≠ '-' ∧ c ≠ '+'
  unmarked : c ≠ 'x' ∧ c ≠ 'X' ∧ c ≠ '_'

theorem of_each_digit {P : Nat → Char → Prop} (lower : ∀ k : Fin 16, P k.val (Text.hexDigit k.val))
    (upper : ∀ k : Fin 16, P k.val (Text.hexDigit k.val).toUpper) {d : Nat} {c : Char} (digit : Hex.IsDigit d c) : P d c := by
  obtain ⟨small, rfl | rfl⟩ := digit
  · exact lower ⟨d, small⟩
  · exact upper ⟨d, small⟩

theorem digit_plain {d : Nat} {c : Char} (digit : Hex.IsDigit d c) : Plain c := by
  have all := of_each_digit (P := fun _ c => isBlank c = false ∧ plain c = c ∧ (c ≠ '-' ∧ c ≠ '+') ∧
    (c ≠ 'x' ∧ c ≠ 'X' ∧ c ≠ '_')) (by decide) (by decide) digit
  obtain ⟨blank, plain, unsigned, unmarked⟩ := all
  exact ⟨⟨blank, plain⟩, unsigned, unmarked⟩

theorem digit_value {d : Nat} {c : Char} (digit : Hex.IsDigit d c) : hexValue? c = some d :=
  of_each_digit (P := fun d c => hexValue? c = some d) (by decide) (by decide) digit

section Chars

variable {chars : List Char}

theorem solid_kept (solids : ∀ c ∈ chars, Solid c) : chars.dropWhile isBlank = chars := by
  cases chars with
  | nil => rfl
  | cons c rest => exact List.dropWhile_cons_of_neg (by rw [(solids c List.mem_cons_self).blank]; exact Bool.false_ne_true)

theorem numeral_kept (solids : ∀ c ∈ chars, Solid c) : numeralChars (String.ofList chars) = chars := by
  have backwards : ∀ c ∈ chars.reverse, Solid c := fun c member => solids c (List.mem_reverse.mp member)
  rw [numeralChars, String.toList_ofList]
  rw [solid_kept solids, solid_kept backwards, List.reverse_reverse]
  calc
    chars.map plain = chars.map id := List.map_congr_left fun c member => (solids c member).plain
    _ = chars := List.map_id chars

variable (plains : ∀ c ∈ chars, Plain c)

include plains

theorem signed_plain : signed chars = (false, chars) := by
  unfold signed
  split
  · exact absurd rfl (plains '-' List.mem_cons_self).unsigned.1
  · exact absurd rfl (plains '+' List.mem_cons_self).unsigned.2
  · rfl

theorem mark_absent : afterHexMark chars = chars := by
  unfold afterHexMark
  split
  · exact absurd rfl (plains 'x' (by simp)).unmarked.1
  · exact absurd rfl (plains 'X' (by simp)).unmarked.2.1
  · exact absurd rfl (plains 'x' (by simp)).unmarked.1
  · exact absurd rfl (plains 'X' (by simp)).unmarked.2.1
  · rfl

end Chars

section Read

variable {ds : List Nat} {chars : List Char}

theorem digits_plain (digits : Digits ds chars) : ∀ c ∈ chars, Plain c := by
  induction digits with
  | nil => nofun
  | cons digit _ ih => exact List.forall_mem_cons.mpr ⟨digit_plain digit, ih⟩

-- Digits of any base, with nothing between them.
theorem digits_read {value? : Char → Option Nat} (digits : List.Forall₂ (fun d c => value? c = some d ∧ c ≠ '_') ds chars)
    (nonempty : ds ≠ []) : digits? value? chars = some ds := by
  induction digits with
  | nil => exact absurd rfl nonempty
  | cons digit others ih =>
      cases others with
      | nil => simp [digits?, digit.1]
      | cons second later =>
          have other := second.2
          have tail := ih (List.cons_ne_nil _ _)
          rw [digits?.eq_4, digit.1, tail]
          · rfl
          · exact nofun
          · intro rest same
            exact other (List.head_eq_of_cons_eq same)

theorem hex_digits_read (digits : Digits ds chars) (nonempty : ds ≠ []) : digits? hexValue? chars = some ds :=
  digits_read (digits.imp fun _ _ digit => ⟨digit_value digit, (digit_plain digit).unmarked.2.2⟩) nonempty

theorem hexadecimal_digits (digits : Digits ds chars) (nonempty : ds ≠ []) :
    hexadecimal? (String.ofList chars) = some (ofDigits 16 ds : Int) := by
  have plains := digits_plain digits
  rw [hexadecimal?, numeral_kept fun c member => (plains c member).toSolid, signed_plain plains]
  simp only [mark_absent plains, hex_digits_read digits nonempty, bind, Option.bind, pure]
  rfl

end Read

-- Two digits make a byte.
theorem digits_spelt {ds : List Nat} {chars : List Char} (digits : Digits ds chars) (even : ds.length % 2 = 0) :
    ∃ bytes, Hex.Spells chars bytes ∧ halves bytes = ds :=
  match ds, chars, digits with
  | [], _, .nil => ⟨[], .done, rfl⟩
  | high :: low :: rest, _, .cons first (.cons second later) => by
      have shorter : rest.length % 2 = 0 := (Nat.add_mod_right rest.length 2).symm.trans even
      obtain ⟨bytes, spelt, same⟩ := digits_spelt later shorter
      obtain ⟨quotient, remainder⟩ := Hex.byte_of_digits first.1 second.1
      refine ⟨UInt8.ofNat (high * 16 + low) :: bytes, .pair ?_ ?_ spelt, ?_⟩
      · rwa [quotient]
      · rwa [remainder]
      · rw [halves, List.flatMap_cons, ← halves, quotient, remainder, same]
        rfl

theorem halves_digits (bytes : Bytes) : Digits (halves bytes) (Hex.encode bytes).toList := by
  have chars : (Hex.encode bytes).toList = (halves bytes).map Text.hexDigit := by
    rw [Hex.encode, String.toList_ofList, halves, List.map_flatMap]
    rfl
  rw [chars, Digits, List.forall₂_map_right_iff, List.forall₂_same]
  exact fun d member => ⟨halves_below bytes d member, .inl rfl⟩

theorem hexadecimal_encode {bytes : Bytes} (nonempty : bytes ≠ []) :
    hexadecimal? (Hex.encode bytes) = some (Encoding.toNat bytes : Int) := by
  have some_half : halves bytes ≠ [] := by
    intro empty
    have length := halves_length bytes
    rw [empty] at length
    have positive := List.length_pos_iff.mpr nonempty
    simp only [List.length_nil] at length
    omega
  have read := hexadecimal_digits (halves_digits bytes) some_half
  rwa [String.ofList_toList, halves_value] at read

end EbsiDid.Number
