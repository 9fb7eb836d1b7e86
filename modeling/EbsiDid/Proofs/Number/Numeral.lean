import EbsiDid.Proofs.Number.Digits
import EbsiDid.Proofs.Number.Hexadecimal

set_option autoImplicit false

/-!
Numerals without a sign, as they stand in a text: digits in base ten, and digits in base sixteen behind a mark. Zeros
may lead in both.
-/
namespace EbsiDid.Number

theorem decimal_digit_plain {c : Char} (digit : c.isDigit = true) : Plain c ∧ Text.digitValue? c = some (Json.digitValue c) := by
  have each : ∀ k : Fin 128, (Char.ofNat k.val).isDigit = true →
      ((isBlank (Char.ofNat k.val) = false ∧ plain (Char.ofNat k.val) = Char.ofNat k.val) ∧
        (Char.ofNat k.val ≠ '-' ∧ Char.ofNat k.val ≠ '+') ∧
        (Char.ofNat k.val ≠ 'x' ∧ Char.ofNat k.val ≠ 'X' ∧ Char.ofNat k.val ≠ '_')) ∧
      Text.digitValue? (Char.ofNat k.val) = some (Json.digitValue (Char.ofNat k.val)) := by decide +kernel
  have ascii : c.toNat < 0x80 := by
    simp only [Char.isDigit, Bool.and_eq_true, decide_eq_true_eq] at digit
    exact Nat.lt_of_le_of_lt digit.2 (by decide)
  obtain ⟨⟨⟨blank, kept⟩, unsigned, unmarked⟩, value⟩ := Encoding.of_each_ascii (P := fun c => c.isDigit = true →
    ((isBlank c = false ∧ plain c = c) ∧ (c ≠ '-' ∧ c ≠ '+') ∧ (c ≠ 'x' ∧ c ≠ 'X' ∧ c ≠ '_')) ∧
      Text.digitValue? c = some (Json.digitValue c)) each ascii digit
  exact ⟨⟨⟨blank, kept⟩, unsigned, unmarked⟩, value⟩

section Decimal

variable {chars : List Char} (digits : Json.Digits chars)

include digits

theorem decimal_digits_read (nonempty : chars ≠ []) : digits? Text.digitValue? chars = some (chars.map Json.digitValue) := by
  refine digits_read ?_ fun empty => nonempty (List.map_eq_nil_iff.mp empty)
  rw [List.forall₂_map_left_iff, List.forall₂_same]
  intro c member
  obtain ⟨plain, value⟩ := decimal_digit_plain (digits c member)
  exact ⟨value, plain.unmarked.2.2⟩

theorem decimal_numeral (nonempty : chars ≠ []) (short : chars.length ≤ digitLimit) :
    decimal? (String.ofList chars) = some (ofDigits 10 (chars.map Json.digitValue) : Int) := by
  have plains : ∀ c ∈ chars, Plain c := fun c member => (decimal_digit_plain (digits c member)).1
  have within : ¬ digitLimit < (chars.map Json.digitValue).length := by
    rw [List.length_map]
    omega
  rw [decimal?, numeral_kept fun c member => (plains c member).toSolid, signed_plain plains]
  simp only [decimal_digits_read digits nonempty, bind, Option.bind, pure, if_neg within]
  rfl

theorem decimal_unmarked : Hex.hasMark chars = false := by
  unfold Hex.hasMark
  split
  · exact absurd (digits 'x' (by simp)) (by decide)
  · exact absurd (digits 'X' (by simp)) (by decide)
  · rfl

end Decimal

section Marked

variable {ds : List Nat} {chars : List Char} {x : Char}

theorem mark_solid (known : x = 'x' ∨ x = 'X') (digits : Digits ds chars) : ∀ c ∈ '0' :: x :: chars, Solid c := by
  have mark : Solid '0' ∧ Solid 'x' ∧ Solid 'X' := ⟨⟨by decide, by decide⟩, ⟨by decide, by decide⟩, ⟨by decide, by decide⟩⟩
  intro c member
  rcases List.mem_cons.mp member with rfl | later
  · exact mark.1
  · rcases List.mem_cons.mp later with rfl | inside
    · rcases known with rfl | rfl
      · exact mark.2.1
      · exact mark.2.2
    · exact (digits_plain digits c inside).toSolid

theorem mark_dropped (known : x = 'x' ∨ x = 'X') (digits : Digits ds chars) : afterHexMark ('0' :: x :: chars) = chars := by
  have plains := digits_plain digits
  cases chars with
  | nil => rcases known with rfl | rfl <;> rfl
  | cons c rest =>
      have other : c ≠ '_' := (plains c List.mem_cons_self).unmarked.2.2
      rcases known with rfl | rfl <;> simp [afterHexMark, other]

theorem hexadecimal_numeral (known : x = 'x' ∨ x = 'X') (digits : Digits ds chars) (nonempty : ds ≠ []) :
    hexadecimal? (String.ofList ('0' :: x :: chars)) = some (ofDigits 16 ds : Int) := by
  rw [hexadecimal?, numeral_kept (mark_solid known digits)]
  have unsigned : signed ('0' :: x :: chars) = (false, '0' :: x :: chars) := rfl
  simp only [unsigned, mark_dropped known digits, hex_digits_read digits nonempty, bind, Option.bind, pure]
  rfl

end Marked

end EbsiDid.Number
