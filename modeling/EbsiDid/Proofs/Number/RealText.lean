import EbsiDid.Proofs.Number.Shortest

set_option autoImplicit false

/-!
The text of a double is read as that double, wherever its point is placed.
-/
namespace EbsiDid.Binary64

open Number Json

/-! ### Exponents -/

theorem exponent_text_parts (x : Int) : ∃ ds, exponentText x = (if x < 0 then '-' else '+') :: ds ∧ Digits ds ∧ ds ≠ [] ∧
    ofDigits 10 (ds.map digitValue) = x.natAbs := by
  by_cases short : (digitsOf x.natAbs).length < 2
  · refine ⟨'0' :: digitsOf x.natAbs, ?_, digits_append (digits_zeros 1) (digits_of _), List.cons_ne_nil _ _,
      digits_of_value x.natAbs⟩
    simp only [exponentText, if_pos short]
  · refine ⟨digitsOf x.natAbs, ?_, digits_of _, Nat.toDigits_ne_nil, digits_of_value _⟩
    simp only [exponentText, if_neg short]

theorem exponent_text_read (x : Int) : exponent? asciiDigit? ('e' :: exponentText x) = some x := by
  obtain ⟨ds, text, digits, nonempty, value⟩ := exponent_text_parts x
  have leading := leading_digits digits apart_nil
  rw [List.append_nil] at leading
  have some_value : ds.map digitValue ≠ [] := by simpa using nonempty
  have marked : ('e' = 'e' ∨ 'e' = 'E') := .inl rfl
  generalize ds.map digitValue = values at *
  obtain ⟨first, more, rfl⟩ := List.exists_cons_of_ne_nil some_value
  rw [text, exponent?, if_pos marked]
  by_cases negative : x < 0
  · have sign : signed ((if x < 0 then '-' else '+') :: ds) = (true, ds) := by rw [if_pos negative, signed]
    simp only [sign, leading, value, negateIf, if_true, Option.some.injEq]
    omega
  · have sign : signed ((if x < 0 then '-' else '+') :: ds) = (false, ds) := by rw [if_neg negative, signed]
    simp only [sign, leading, value, negateIf, Bool.false_eq_true, if_false, Option.some.injEq]
    omega

/-! ### Digits with a point -/

theorem started_take {ds : List Char} (started : Started ds) {n : Nat} (some_digit : 0 < n) : Started (ds.take n) := by
  match ds, n, started with
  | [_], _ + 1, _ =>
      rw [List.take_succ_cons, List.take_nil]
      trivial
  | _ :: _ :: _, 1, _ => trivial
  | _ :: _ :: _, _ + 2, first => exact first

section Placed

variable (negative : Bool) {m : Nat} {q : Int} (canonical : Canonical m q) {d : Nat} {e : Int}
  (within : (span m q).Within q ((d : ℚ) * 10 ^ e))

include canonical within

-- A numeral that comes to the same decimal.
theorem numeral_within {whole part : List Nat} {x : Int} (digits : ofDigits 10 (whole ++ part) = d)
    (exponent : x - part.length = e) : (Numeral.mk whole part x).toBinary64 negative = withSign negative (assemble m q) := by
  rw [Numeral.toBinary64, digits, exponent]
  exact of_decimal_within negative canonical within

theorem placed_before {k : Nat} (place : ((digitsOf d).length : Int) + e = -k) :
    numberToken negative ('0' :: '.' :: (zeros k ++ digitsOf d)) = .scalar (.real (withSign negative (assemble m q))) := by
  have part : Digits (zeros k ++ digitsOf d) := digits_append (digits_zeros k) (digits_of d)
  have token := number_token_pointed negative (digits_zeros 1) trivial part (by simp [digitsOf]) apart_nil rfl
  rw [List.append_nil] at token
  refine token.trans ?_
  rw [numeral_within negative canonical within]
  · rw [values_zeros, List.map_append, zeros, values_zeros, of_digits_leading_zeros, of_digits_leading_zeros,
      digits_of_value]
  · simp only [List.length_map, List.length_append, zeros, List.length_replicate]
    omega

theorem placed_inside {n : Nat} (place : ((digitsOf d).length : Int) + e = n) (some_digit : 0 < n)
    (inside : n < (digitsOf d).length) :
    numberToken negative ((digitsOf d).take n ++ '.' :: (digitsOf d).drop n) =
      .scalar (.real (withSign negative (assemble m q))) := by
  have whole : Digits ((digitsOf d).take n) := fun c member => digits_of d c (List.mem_of_mem_take member)
  have part : Digits ((digitsOf d).drop n) := fun c member => digits_of d c (List.mem_of_mem_drop member)
  have nonempty : (digitsOf d).drop n ≠ [] := by
    intro none
    have short := List.drop_eq_nil_iff.mp none
    omega
  have token := number_token_pointed negative whole (started_take (digits_of_started d) some_digit) part nonempty apart_nil rfl
  rw [List.append_nil] at token
  refine token.trans ?_
  rw [numeral_within negative canonical within]
  · rw [← List.map_append, List.take_append_drop, digits_of_value]
  · simp only [List.length_map, List.length_drop]
    omega

theorem placed_behind {k : Nat} (pos : 0 < d) (place : e = k) :
    numberToken negative (digitsOf d ++ zeros k ++ ['.', '0']) = .scalar (.real (withSign negative (assemble m q))) := by
  have whole : Digits (digitsOf d ++ zeros k) := digits_append (digits_of d) (digits_zeros k)
  have started : Started (digitsOf d ++ zeros k) := started_append (digits_of_started d) (digits_of_ne_zero pos) _
  have token := number_token_pointed negative whole started (digits_zeros 1) (List.cons_ne_nil _ _) apart_nil rfl
  refine token.trans ?_
  -- The same number with one more zero, which the point takes back.
  have longer : (span m q).Within q (((d * 10 ^ (k + 1) : Nat) : ℚ) * 10 ^ (-1 : Int)) := by
    have same : ((d * 10 ^ (k + 1) : Nat) : ℚ) * 10 ^ (-1 : Int) = d * 10 ^ e := by
      rw [place, zpow_natCast]
      push_cast
      rw [pow_succ, zpow_neg_one]
      field_simp
    rw [same]
    exact within
  rw [numeral_within negative canonical longer]
  · rw [List.map_append, zeros, values_zeros, values_zeros, List.append_assoc, ← List.replicate_add, of_digits_append,
      of_digits_zeros, digits_of_value, List.length_replicate, Nat.add_zero]
  · rfl

theorem placed_exponent {c : Char} {more : List Char} (shape : digitsOf d = c :: more) :
    numberToken negative ((if more.isEmpty then [c] else c :: '.' :: more) ++
      'e' :: exponentText (((digitsOf d).length : Int) + e - 1)) = .scalar (.real (withSign negative (assemble m q))) := by
  have digits := digits_of d
  have value := digits_of_value d
  rw [shape] at digits value ⊢
  have first : Digits [c] := fun b member => digits b (List.mem_cons.mpr (.inl (List.mem_singleton.mp member)))
  have exponent := exponent_text_read (((c :: more).length : Int) + e - 1)
  cases more with
  | nil =>
      refine (number_token_exponent negative first trivial exponent).trans ?_
      rw [numeral_within negative canonical within]
      · rw [List.append_nil]
        exact value
      · simp
  | cons b others =>
      have part : Digits (b :: others) := fun a member => digits a (List.mem_cons_of_mem c member)
      refine (number_token_pointed negative first trivial part (List.cons_ne_nil _ _) (apart_cons rfl _) exponent).trans ?_
      rw [numeral_within negative canonical within]
      · exact value
      · simp only [List.length_map, List.length_cons]
        omega

theorem placed_token (pos : 0 < d) : numberToken negative (placed (digitsOf d) (((digitsOf d).length : Int) + e)) =
    .scalar (.real (withSign negative (assemble m q))) := by
  unfold placed
  split
  · rename_i positional
    split
    · rename_i before
      exact placed_before negative canonical within (by omega)
    · rename_i after
      split
      · rename_i inside
        exact placed_inside negative canonical within (by omega) (by omega) inside
      · rename_i behind
        exact placed_behind negative canonical within pos (by omega)
  · split
    · rename_i none
      exact absurd none Nat.toDigits_ne_nil
    · rename_i c more shape
      exact placed_exponent negative canonical within shape

end Placed

theorem magnitude_text_token (negative : Bool) {m : Nat} {q : Int} (canonical : Canonical m q) :
    numberToken negative (magnitudeText m q) = .scalar (.real (withSign negative (assemble m q))) := by
  have within := shortest_within canonical
  have pos : 0 < (shortest m q).1 := by
    have above := lt_of_lt_of_le (two_zpow_pos _) (within_bounds canonical within).1
    have digits : (0 : ℚ) < (shortest m q).1 := (mul_pos_iff_of_pos_right (ten_zpow_pos _)).mp above
    exact_mod_cast digits
  rw [magnitudeText, if_neg canonical.positive.ne']
  exact placed_token negative canonical within pos

/-! ### Words of a double -/

theorem bits_parts (x : Binary64) : x.bits.toNat = (if x.negative then signBit else 0) + x.exponent * hiddenBit + x.fraction := by
  have bound : x.bits.toNat < 18446744073709551616 := x.bits.toNat_lt
  have sign : signBit = 9223372036854775808 := rfl
  simp only [negative, exponent, fraction, decide_eq_true_eq, hidden_bit_value, sign]
  split <;> omega

theorem with_sign_bits {x : Binary64} {n : Nat} (bits : x.bits.toNat = (if x.negative then signBit else 0) + n) :
    x = withSign x.negative n := by
  have shape : x = ⟨UInt64.ofNat x.bits.toNat⟩ := by rw [UInt64.ofNat_toNat]
  refine shape.trans ?_
  rw [bits, withSign]
  split
  · rfl
  · rw [Nat.zero_add]

theorem parts_small (x : Binary64) : x.fraction < hiddenBit ∧ x.exponent < 2048 :=
  ⟨Nat.mod_lt _ (by decide), Nat.mod_lt _ (by decide)⟩

theorem reading_finite {x : Binary64} {s : Bool} {m : Nat} {q : Int} (reads : x.reading = .finite s m q) :
    x = withSign s (assemble m q) ∧ (0 < m → Canonical m q) := by
  obtain ⟨fraction_small, exponent_small⟩ := parts_small x
  have bits := bits_parts x
  have value := hidden_bit_value
  unfold reading at reads
  split at reads
  · split at reads <;> cases reads
  · rename_i finite
    split at reads
    · rename_i least
      cases reads
      constructor
      · apply with_sign_bits
        rw [bits, least, assemble, if_pos fraction_small, Nat.zero_mul, Nat.add_zero]
      · intro pos
        exact ⟨pos, by omega, by omega, by omega, .inr rfl⟩
    · rename_i normal
      cases reads
      constructor
      · apply with_sign_bits
        have exponent : ((x.exponent : Int) - 1075 + 1075).toNat = x.exponent := by omega
        rw [bits, assemble, if_neg (Nat.not_lt.mpr (Nat.le_add_right _ _)), exponent, Nat.add_sub_cancel_left, Nat.add_assoc]
      · intro pos
        exact ⟨pos, by omega, by omega, by omega, .inl (Nat.le_add_right _ _)⟩

theorem reading_infinite {x : Binary64} {s : Bool} (reads : x.reading = .infinite s) : x = infinity s := by
  have bits := bits_parts x
  unfold reading at reads
  split at reads
  · rename_i top
    split at reads
    · rename_i whole
      cases reads
      apply with_sign_bits
      rw [bits, top, whole]
      rfl
    · cases reads
  · split at reads <;> cases reads

end EbsiDid.Binary64
