import EbsiDid.Proofs.Number.RealText

set_option autoImplicit false

/-!
Which numbers are out of the range of a double: those that are no nearer to the greatest double than to the power of two
behind it. Rounding takes them up to an infinity, and so an integer as large as that gives no double.
-/
namespace EbsiDid.Binary64

/-! ### The rounded mantissa -/

theorem round_half_even_bounds (num den : Nat) :
    num / den ≤ roundHalfEven num den ∧ roundHalfEven num den ≤ num / den + 1 := by
  simp only [roundHalfEven]
  split
  · omega
  · split <;> omega

-- Rounded up to an even number from less than it.
theorem round_half_even_top {num den top : Nat} (pos : 0 < den) (even : top % 2 = 0) (less : num < top * den) :
    roundHalfEven num den = top ↔ 2 * top * den ≤ 2 * num + den := by
  constructor
  · intro rounded
    by_contra far
    have parts : num = den * (num / den) + num % den := (Nat.div_add_mod num den).symm
    have short := (round_half_even_bounds num den).2
    have whole : num / den + 1 = top := by
      have under : num / den < top := (Nat.div_lt_iff_lt_mul pos).mpr less
      omega
    have low : 2 * (num % den) < den := by
      rw [← whole] at far
      nlinarith
    simp only [roundHalfEven, if_pos low] at rounded
    omega
  · intro near
    apply round_half_even_near pos near
    · nlinarith
    · intro odd
      omega

section Rounding

variable {num den : Nat} {q : Int}

theorem mantissa_low (below : 0 < den) (reached : (2 : ℚ) ^ (q + 52) ≤ (num : ℚ) / den) :
    hiddenBit ≤ roundHalfEven (num * (powerOfTwo q).2) (den * (powerOfTwo q).1) := by
  have pos : 0 < den * (powerOfTwo q).1 := Nat.mul_pos below (power_of_two_pos q).1
  have units : (hiddenBit : ℚ) ≤ (num * (powerOfTwo q).2 : Nat) / (den * (powerOfTwo q).1 : Nat) := by
    rw [scaled_ratio, le_div_iff₀ (two_zpow_pos q), hidden_bit_power, ← zpow_add₀ (by norm_num), Int.add_comm]
    exact reached
  rw [le_div_iff₀ (by exact_mod_cast pos)] at units
  have whole := (Nat.le_div_iff_mul_le pos).mpr (by exact_mod_cast units)
  exact whole.trans (round_half_even_bounds _ _).1

theorem mantissa_scaled (below : 0 < den) (missed : (num : ℚ) / den < 2 ^ (q + 53)) :
    num * (powerOfTwo q).2 < 2 * hiddenBit * (den * (powerOfTwo q).1) := by
  have pos : 0 < den * (powerOfTwo q).1 := Nat.mul_pos below (power_of_two_pos q).1
  have double : (2 * hiddenBit : ℚ) = 2 ^ (53 : Int) := by
    rw [hidden_bit_power]
    norm_num
  have units : ((num * (powerOfTwo q).2 : Nat) : ℚ) / (den * (powerOfTwo q).1 : Nat) < 2 * hiddenBit := by
    rw [scaled_ratio, div_lt_iff₀ (two_zpow_pos q), double, ← zpow_add₀ (by norm_num), Int.add_comm]
    exact missed
  rw [div_lt_iff₀ (by exact_mod_cast pos)] at units
  exact_mod_cast units

theorem mantissa_high (below : 0 < den) (missed : (num : ℚ) / den < 2 ^ (q + 53)) :
    roundHalfEven (num * (powerOfTwo q).2) (den * (powerOfTwo q).1) ≤ 2 * hiddenBit := by
  have pos : 0 < den * (powerOfTwo q).1 := Nat.mul_pos below (power_of_two_pos q).1
  have whole := (Nat.div_lt_iff_lt_mul pos).mpr (mantissa_scaled below missed)
  exact (round_half_even_bounds _ _).2.trans whole

end Rounding

/-! ### Words out of range -/

theorem assemble_infinite_iff {m : Nat} {q : Int} (low : -1074 ≤ q) (high : m ≤ 2 * hiddenBit) :
    infinityBits ≤ assemble m q ↔ hiddenBit ≤ m ∧ (972 ≤ q ∨ q = 971 ∧ m = 2 * hiddenBit) := by
  by_cases small : m < hiddenBit
  · rw [assemble, if_pos small, infinityBits]
    omega
  · rw [assemble, if_neg small, infinityBits]
    rw [hidden_bit_value] at *
    omega

-- Half a unit beyond the greatest double.
def rangeEnd : Nat := 2 ^ 1024 - 2 ^ 970

theorem range_end_value : (rangeEnd : ℚ) = 2 ^ (1024 : Int) - 2 ^ (970 : Int) := by
  have growing {j k : Nat} (le : j ≤ k) : 2 ^ j ≤ 2 ^ k := Nat.pow_le_pow_right (by decide) le
  have less : 970 ≤ 1024 := by decide
  rw [rangeEnd, Nat.cast_sub (growing less), Nat.cast_pow, Nat.cast_pow]
  rfl

theorem range_end_units : (rangeEnd : ℚ) = (2 * hiddenBit - 1 / 2) * 2 ^ (971 : Int) := by
  rw [range_end_value, hidden_bit_power, show (1024 : Int) = 1 + 52 + 971 from rfl, show (970 : Int) = -1 + 971 from rfl,
    zpow_add₀ (by norm_num), zpow_add₀ (by norm_num), zpow_add₀ (by norm_num)]
  generalize (2 : ℚ) ^ (971 : Int) = unit
  norm_num
  ring

theorem range_end_bounds : (2 : ℚ) ^ (1023 : Int) ≤ rangeEnd ∧ (rangeEnd : ℚ) < 2 ^ (1024 : Int) := by
  have half : (2 : ℚ) ^ (970 : Int) ≤ 2 ^ (1023 : Int) := two_zpow_le (by decide)
  have positive := two_zpow_pos 970
  have double : (2 : ℚ) ^ (1024 : Int) = 2 * 2 ^ (1023 : Int) := by
    rw [show (1024 : Int) = 1 + 1023 from rfl, zpow_add₀ (by norm_num), zpow_one]
  rw [range_end_value, double]
  generalize (2 : ℚ) ^ (970 : Int) = small at half positive ⊢
  generalize (2 : ℚ) ^ (1023 : Int) = large at half ⊢
  constructor <;> linarith

theorem top_mantissa_iff {num den : Nat} (below : 0 < den) (missed : (num : ℚ) / den < 2 ^ (1024 : Int)) :
    roundHalfEven (num * (powerOfTwo 971).2) (den * (powerOfTwo 971).1) = 2 * hiddenBit ↔ rangeEnd ≤ (num : ℚ) / den := by
  have pos : 0 < den * (powerOfTwo 971).1 := Nat.mul_pos below (power_of_two_pos 971).1
  have scaled := scaled_ratio num den 971
  rw [range_end_units, ← le_div_iff₀ (two_zpow_pos 971), ← scaled, le_div_iff₀ (by exact_mod_cast pos),
    round_half_even_top pos (Nat.mul_mod_right 2 hiddenBit) (mantissa_scaled below missed), ← Nat.cast_le (α := ℚ)]
  push_cast
  constructor <;> intro near <;> linarith

theorem word_infinite_iff {num den : Nat} (above : 0 < num) (below : 0 < den) :
    let q := max (floorLog2 num den - 52) (-1074)
    infinityBits ≤ assemble (roundHalfEven (num * (powerOfTwo q).2) (den * (powerOfTwo q).1)) q ↔
      rangeEnd ≤ (num : ℚ) / den := by
  intro q
  obtain ⟨low, high⟩ := floor_log2_bounds above below
  have most : floorLog2 num den + 1 ≤ q + 53 := by omega
  have least : -1074 < q → q + 52 ≤ floorLog2 num den := by omega
  have lowest : -1074 ≤ q := le_max_right _ _
  clear_value q
  have missed : (num : ℚ) / den < 2 ^ (q + 53) := lt_of_lt_of_le high (two_zpow_le most)
  have reached (normal : -1074 < q) : (2 : ℚ) ^ (q + 52) ≤ (num : ℚ) / den := (two_zpow_le (least normal)).trans low
  obtain ⟨end_low, end_high⟩ := range_end_bounds
  rw [assemble_infinite_iff lowest (mantissa_high below missed)]
  obtain small | rfl | large : q ≤ 970 ∨ q = 971 ∨ 972 ≤ q := by omega
  · have within : (num : ℚ) / den < rangeEnd :=
      missed.trans_le ((two_zpow_le (by omega)).trans end_low)
    constructor
    · omega
    · intro beyond
      exact absurd beyond (not_le_of_gt within)
  · rw [← top_mantissa_iff below missed]
    have normal := mantissa_low below (reached (by decide))
    constructor
    · omega
    · intro top
      exact ⟨normal, .inr ⟨rfl, top⟩⟩
  · have far : (rangeEnd : ℚ) ≤ (num : ℚ) / den :=
      end_high.le.trans ((two_zpow_le (by omega)).trans (reached (by omega)))
    exact iff_of_true ⟨mantissa_low below (reached (by omega)), .inl large⟩ far

/-! ### Integers out of range -/

theorem infinity_reading (negative : Bool) : (infinity negative).reading = .infinite negative := by
  cases negative <;> rfl

theorem finite_reading {negative s : Bool} {word : Nat} (finite : word < infinityBits) :
    (withSign negative word).reading ≠ .infinite s := by
  intro reads
  have bits := congrArg (fun x => x.bits.toNat) (reading_infinite reads)
  have sign : signBit = 9223372036854775808 := rfl
  have top : infinityBits = 9218868437227405312 := rfl
  simp only [infinity, withSign, UInt64.toNat_ofNat', sign, top] at bits finite
  cases negative <;> cases s <;> simp at bits <;> omega

theorem of_ratio_infinite_iff (negative : Bool) (num : Nat) {den : Nat} (below : 0 < den) :
    (∃ s, (ofRatio negative num den).reading = .infinite s) ↔ (rangeEnd : ℚ) ≤ (num : ℚ) / den := by
  by_cases zero : num = 0
  · subst zero
    have positive : (0 : ℚ) < rangeEnd := (two_zpow_pos 1023).trans_le range_end_bounds.1
    refine iff_of_false ?_ ?_
    · rintro ⟨s, reads⟩
      exact finite_reading (by decide) reads
    · rw [Nat.cast_zero, zero_div]
      exact not_le_of_gt positive
  · have word : _ ↔ (rangeEnd : ℚ) ≤ (num : ℚ) / den := word_infinite_iff (Nat.pos_of_ne_zero zero) below
    rw [← word]
    simp only [ofRatio, if_neg zero]
    split
    · rename_i beyond
      exact iff_of_true ⟨negative, infinity_reading negative⟩ beyond
    · rename_i within
      refine iff_of_false ?_ within
      rintro ⟨s, reads⟩
      exact finite_reading (Nat.lt_of_not_le within) reads

theorem of_int_none_iff (n : Int) : ofInt? n = none ↔ rangeEnd ≤ n.natAbs := by
  have range := of_ratio_infinite_iff (n < 0) n.natAbs Nat.one_pos
  rw [Nat.cast_one, div_one, Nat.cast_le] at range
  rw [← range]
  constructor
  · intro none
    simp only [ofInt?] at none
    split at none
    · rename_i s reads
      exact ⟨s, reads⟩
    · cases none
  · rintro ⟨s, reads⟩
    simp only [ofInt?, reads]

end EbsiDid.Binary64
