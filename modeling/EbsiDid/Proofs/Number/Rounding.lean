import EbsiDid.Number.Shortest
import Mathlib.Algebra.Order.Field.Power
import Mathlib.Tactic.FieldSimp
import Mathlib.Tactic.Linarith
import Mathlib.Tactic.Positivity
import Mathlib.Tactic.Ring

set_option autoImplicit false

/-!
Which numbers round to a given double: those of its span. They lie no further from it than half a unit, and at
a power of two no further below it than a quarter, where the doubles below are twice as dense.
-/
namespace EbsiDid.Binary64

/-! ### Ratios -/

theorem power_ratio (b : Nat) (pos : 0 < b) (k : Int) :
    ((Nat.pow b k.toNat : Nat) : ℚ) / (Nat.pow b (-k).toNat : Nat) = (b : ℚ) ^ k := by
  have nonzero : (b : ℚ) ≠ 0 := by positivity
  obtain ⟨n, rfl | rfl⟩ := Int.eq_nat_or_neg k
  · have negative : (-(n : Int)).toNat = 0 := by omega
    rw [negative, Int.toNat_natCast, zpow_natCast]
    simp
  · have negative : (-(n : Int)).toNat = 0 := by omega
    rw [negative, Int.neg_neg, Int.toNat_natCast, zpow_neg, zpow_natCast]
    simp

theorem power_of_two_ratio (k : Int) : ((powerOfTwo k).1 : ℚ) / (powerOfTwo k).2 = 2 ^ k := power_ratio 2 (by decide) k

theorem power_of_ten_ratio (k : Int) : ((powerOfTen k).1 : ℚ) / (powerOfTen k).2 = 10 ^ k := power_ratio 10 (by decide) k

theorem power_of_two_pos (k : Int) : 0 < (powerOfTwo k).1 ∧ 0 < (powerOfTwo k).2 :=
  ⟨Nat.pow_pos (by decide), Nat.pow_pos (by decide)⟩

theorem power_of_ten_pos (k : Int) : 0 < (powerOfTen k).1 ∧ 0 < (powerOfTen k).2 :=
  ⟨Nat.pow_pos (by decide), Nat.pow_pos (by decide)⟩

theorem two_zpow_pos (k : Int) : (0 : ℚ) < 2 ^ k := zpow_pos (by norm_num) k

theorem two_zpow_le {j k : Int} (le : j ≤ k) : (2 : ℚ) ^ j ≤ 2 ^ k := zpow_le_zpow_right₀ (by norm_num) le

theorem two_zpow_lt_iff {j k : Int} : (2 : ℚ) ^ j < 2 ^ k ↔ j < k := zpow_lt_zpow_iff_right₀ (by norm_num)

/-! ### The binary order of magnitude -/

theorem log2_bounds {n : Nat} (pos : 0 < n) : (2 : ℚ) ^ (n.log2 : Int) ≤ n ∧ (n : ℚ) < 2 ^ ((n.log2 : Int) + 1) := by
  have low : 2 ^ n.log2 ≤ n := Nat.log2_self_le (Nat.pos_iff_ne_zero.mp pos)
  have high : n < 2 ^ (n.log2 + 1) := Nat.lt_log2_self
  have next : ((n.log2 : Int) + 1) = ((n.log2 + 1 : Nat) : Int) := by omega
  constructor
  · rw [zpow_natCast]
    exact_mod_cast low
  · rw [next, zpow_natCast]
    exact_mod_cast high

theorem floor_log2_bounds {num den : Nat} (above : 0 < num) (below : 0 < den) :
    (2 : ℚ) ^ floorLog2 num den ≤ (num : ℚ) / den ∧ (num : ℚ) / den < 2 ^ (floorLog2 num den + 1) := by
  obtain ⟨num_low, num_high⟩ := log2_bounds above
  obtain ⟨den_low, den_high⟩ := log2_bounds below
  have den_pos : (0 : ℚ) < den := by exact_mod_cast below
  have at_least : (2 : ℚ) ^ ((num.log2 : Int) - den.log2 - 1) ≤ (num : ℚ) / den := by
    rw [le_div_iff₀ den_pos]
    calc (2 : ℚ) ^ ((num.log2 : Int) - den.log2 - 1) * den
        ≤ 2 ^ ((num.log2 : Int) - den.log2 - 1) * 2 ^ ((den.log2 : Int) + 1) := by gcongr
      _ = 2 ^ (num.log2 : Int) := by rw [← zpow_add₀ (by norm_num)]; congr 1; omega
      _ ≤ num := num_low
  have at_most : (num : ℚ) / den < 2 ^ ((num.log2 : Int) - den.log2 + 1) := by
    rw [div_lt_iff₀ den_pos]
    calc (num : ℚ) < 2 ^ ((num.log2 : Int) + 1) := num_high
      _ = 2 ^ ((num.log2 : Int) - den.log2 + 1) * 2 ^ (den.log2 : Int) := by
        rw [← zpow_add₀ (by norm_num)]; congr 1; omega
      _ ≤ 2 ^ ((num.log2 : Int) - den.log2 + 1) * den := by gcongr
  have test : den * (powerOfTwo ((num.log2 : Int) - den.log2)).1 ≤ num * (powerOfTwo ((num.log2 : Int) - den.log2)).2 ↔
      (2 : ℚ) ^ ((num.log2 : Int) - den.log2) ≤ (num : ℚ) / den := by
    have down_pos : (0 : ℚ) < (powerOfTwo ((num.log2 : Int) - den.log2)).2 := by
      exact_mod_cast (power_of_two_pos _).2
    rw [← power_of_two_ratio, div_le_div_iff₀ down_pos den_pos, mul_comm den]
    exact_mod_cast Iff.rfl
  simp only [floorLog2]
  split
  · rename_i reached
    exact ⟨test.mp reached, at_most⟩
  · rename_i missed
    rw [sub_add_cancel]
    exact ⟨at_least, lt_of_not_ge fun reached => missed (test.mpr reached)⟩

theorem floor_log2_eq {num den : Nat} (above : 0 < num) (below : 0 < den) {k : Int} (low : (2 : ℚ) ^ k ≤ (num : ℚ) / den)
    (high : (num : ℚ) / den < 2 ^ (k + 1)) : floorLog2 num den = k := by
  obtain ⟨floor_low, floor_high⟩ := floor_log2_bounds above below
  have one := two_zpow_lt_iff.mp (lt_of_le_of_lt low floor_high)
  have other := two_zpow_lt_iff.mp (lt_of_le_of_lt floor_low high)
  omega

/-! ### Rounding to a natural number -/

theorem round_half_even_near {num den m : Nat} (pos : 0 < den) (low : 2 * m * den ≤ 2 * num + den)
    (high : 2 * num ≤ (2 * m + 1) * den)
    (inside : m % 2 = 1 → 2 * m * den < 2 * num + den ∧ 2 * num < (2 * m + 1) * den) : roundHalfEven num den = m := by
  have parts : num = den * (num / den) + num % den := (Nat.div_add_mod num den).symm
  have less := Nat.mod_lt num pos
  simp only [roundHalfEven]
  generalize num / den = whole at parts ⊢
  generalize num % den = rest at parts less ⊢
  subst parts
  have lower : m ≤ whole + 1 := by
    by_contra far
    nlinarith
  have upper : whole ≤ m := by
    by_contra far
    nlinarith
  obtain same | next : whole = m ∨ m = whole + 1 := by omega
  · subst same
    have half : 2 * rest ≤ den := by linarith
    by_cases tie : 2 * rest = den
    · have even : whole % 2 = 0 := by
        by_contra odd
        have strict := (inside (by omega)).2
        linarith
      rw [if_neg (by omega), if_neg (by omega), even, Nat.add_zero]
    · rw [if_pos (by omega)]
  · subst next
    have half : den ≤ 2 * rest := by linarith
    by_cases tie : 2 * rest = den
    · have odd : whole % 2 = 1 := by
        by_contra even
        have strict := (inside (by omega)).1
        linarith
      rw [if_neg (by omega), if_neg (by omega), odd]
    · rw [if_neg (by omega), if_pos (by omega)]

-- As `round_half_even_near`, for the ratio itself.
theorem round_half_even_ratio {num den m : Nat} (pos : 0 < den) (low : (m : ℚ) - 1 / 2 ≤ (num : ℚ) / den)
    (high : (num : ℚ) / den ≤ m + 1 / 2)
    (inside : m % 2 = 1 → (m : ℚ) - 1 / 2 < (num : ℚ) / den ∧ (num : ℚ) / den < m + 1 / 2) :
    roundHalfEven num den = m := by
  have den_pos : (0 : ℚ) < den := by exact_mod_cast pos
  rw [le_div_iff₀ den_pos] at low
  rw [div_le_iff₀ den_pos] at high
  rw [lt_div_iff₀ den_pos, div_lt_iff₀ den_pos] at inside
  apply round_half_even_near pos
  · have twice : (2 * m * den : ℚ) ≤ 2 * num + den := by linarith
    exact_mod_cast twice
  · have twice : (2 * num : ℚ) ≤ (2 * m + 1) * den := by linarith
    exact_mod_cast twice
  · intro odd
    obtain ⟨above, below⟩ := inside odd
    constructor
    · have twice : (2 * m * den : ℚ) < 2 * num + den := by linarith
      exact_mod_cast twice
    · have twice : (2 * num : ℚ) < (2 * m + 1) * den := by linarith
      exact_mod_cast twice

/-! ### Spans -/

-- The parts of a positive double: 53 bits, or fewer at the least exponent.
structure Canonical (m : Nat) (q : Int) : Prop where
  positive : 0 < m
  low : -1074 ≤ q
  high : q ≤ 971
  small : m < 2 * hiddenBit
  normal : hiddenBit ≤ m ∨ q = -1074

def Span.Within (s : Span) (q : Int) (x : ℚ) : Prop :=
  s.low * 2 ^ (q - 2) ≤ x ∧ x ≤ s.high * 2 ^ (q - 2) ∧
    (s.closed = false → s.low * 2 ^ (q - 2) < x ∧ x < s.high * 2 ^ (q - 2))

-- How far below the double its span reaches, in units of it.
def reach (m : Nat) (q : Int) : ℚ := if m = hiddenBit ∧ q > -1074 then 1 / 4 else 1 / 2

theorem reach_le_half (m : Nat) (q : Int) : reach m q ≤ 1 / 2 := by
  unfold reach
  split <;> norm_num

theorem span_low_units {m : Nat} (pos : 0 < m) (q : Int) : ((span m q).low : ℚ) / 4 = m - reach m q := by
  simp only [span, reach]
  split
  · rw [Nat.cast_sub (by omega)]
    push_cast
    ring
  · rw [Nat.cast_sub (by omega)]
    push_cast
    ring

theorem span_high_units (m : Nat) (q : Int) : ((span m q).high : ℚ) / 4 = m + 1 / 2 := by
  simp only [span]
  push_cast
  ring

theorem quarter_units (n : Nat) (q : Int) : (n : ℚ) * 2 ^ (q - 2) = n / 4 * 2 ^ q := by
  rw [zpow_sub₀ (by norm_num)]
  norm_num
  ring

theorem within_units {m : Nat} (pos : 0 < m) {q : Int} {x : ℚ} (within : (span m q).Within q x) :
    m - reach m q ≤ x / 2 ^ q ∧ x / 2 ^ q ≤ m + 1 / 2 ∧
      (m % 2 = 1 → m - reach m q < x / 2 ^ q ∧ x / 2 ^ q < m + 1 / 2) := by
  obtain ⟨low, high, inside⟩ := within
  have unit := two_zpow_pos q
  rw [quarter_units, span_low_units pos] at low inside
  rw [quarter_units, span_high_units] at high inside
  refine ⟨(le_div_iff₀ unit).mpr low, (div_le_iff₀ unit).mpr high, ?_⟩
  intro odd
  have opened : (span m q).closed = false := by simp [span, odd]
  obtain ⟨above, below⟩ := inside opened
  exact ⟨(lt_div_iff₀ unit).mpr above, (div_lt_iff₀ unit).mpr below⟩

theorem hidden_bit_power : (hiddenBit : ℚ) = 2 ^ (52 : Int) := by
  norm_num [hiddenBit]

/-! ### The nearest double -/

theorem within_bounds {m : Nat} {q : Int} (canonical : Canonical m q) {x : ℚ} (within : (span m q).Within q x) :
    (2 : ℚ) ^ (-1075 : Int) ≤ x ∧ x ≤ 2 ^ (1024 : Int) := by
  obtain ⟨low, high, _⟩ := within_units canonical.positive within
  have half := reach_le_half m q
  have unit := two_zpow_pos q
  have least : (1 : ℚ) ≤ m := by exact_mod_cast canonical.positive
  have most : (m : ℚ) + 1 ≤ 2 * hiddenBit := by exact_mod_cast canonical.small
  have half_unit : (2 : ℚ) ^ (-1075 : Int) = 1 / 2 * 2 ^ (-1074 : Int) := by
    rw [show (-1075 : Int) = -1 + -1074 from rfl, zpow_add₀ (by norm_num)]
    norm_num
  have top : 2 * (hiddenBit : ℚ) * 2 ^ (971 : Int) = 2 ^ (1024 : Int) := by
    rw [hidden_bit_power, show (1024 : Int) = 1 + 52 + 971 from rfl, zpow_add₀ (by norm_num), zpow_add₀ (by norm_num)]
    norm_num
  rw [le_div_iff₀ unit] at low
  rw [div_le_iff₀ unit] at high
  constructor
  · calc (2 : ℚ) ^ (-1075 : Int) = 1 / 2 * 2 ^ (-1074 : Int) := half_unit
      _ ≤ 1 / 2 * 2 ^ q := mul_le_mul_of_nonneg_left (two_zpow_le canonical.low) (by norm_num)
      _ ≤ (m - reach m q) * 2 ^ q := mul_le_mul_of_nonneg_right (by linarith) unit.le
      _ ≤ x := low
  · calc x ≤ (m + 1 / 2) * 2 ^ q := high
      _ ≤ 2 * hiddenBit * 2 ^ q := mul_le_mul_of_nonneg_right (by linarith) unit.le
      _ ≤ 2 * hiddenBit * 2 ^ (971 : Int) :=
        mul_le_mul_of_nonneg_left (two_zpow_le canonical.high) (mul_nonneg zero_le_two (Nat.cast_nonneg _))
      _ = 2 ^ (1024 : Int) := top

-- Only the span of a power of two goes down into the smaller unit.
theorem edge_of_missed {m : Nat} {q : Int} (canonical : Canonical m q) (coarse : q ≠ -1074) {x : ℚ}
    (low : m - reach m q ≤ x / 2 ^ q) (missed : x < hiddenBit * 2 ^ q) : m = hiddenBit := by
  have normal := canonical.normal.resolve_right coarse
  have units : x / 2 ^ q < hiddenBit := (div_lt_iff₀ (two_zpow_pos q)).mpr missed
  have near : (m : ℚ) < hiddenBit + 1 := by linarith [reach_le_half m q]
  have close : m < hiddenBit + 1 := by exact_mod_cast near
  omega

-- In which unit a ratio is rounded: that of the double whose span it is in, or half of it right below a power of two.
theorem rounding_unit {m : Nat} {q : Int} (canonical : Canonical m q) {num den : Nat} (below : 0 < den)
    (within : (span m q).Within q ((num : ℚ) / den)) (above : 0 < num) :
    max (floorLog2 num den - 52) (-1074) = q ∨
      (m = hiddenBit ∧ q > -1074 ∧ (num : ℚ) / den < hiddenBit * 2 ^ q ∧
        max (floorLog2 num den - 52) (-1074) = q - 1) := by
  obtain ⟨low, high, _⟩ := within_units canonical.positive within
  obtain ⟨floor_low, floor_high⟩ := floor_log2_bounds above below
  have unit := two_zpow_pos q
  have small : (m : ℚ) + 1 ≤ 2 * hiddenBit := by exact_mod_cast canonical.small
  have shifted (k : Int) : (2 : ℚ) ^ (q + k) = 2 ^ k * 2 ^ q := by rw [zpow_add₀ (by norm_num), mul_comm]
  have bounded : (num : ℚ) / den < 2 ^ (q + 52 + 1) := by
    have units : (num : ℚ) / den < 2 * hiddenBit * 2 ^ q := by
      rw [← div_lt_iff₀ unit]
      linarith
    rw [hidden_bit_power] at units
    rw [add_assoc, shifted]
    norm_num at units ⊢
    exact units
  by_cases reached : (hiddenBit : ℚ) * 2 ^ q ≤ (num : ℚ) / den
  · have exact : floorLog2 num den = q + 52 := by
      refine floor_log2_eq above below ?_ bounded
      rw [shifted, ← hidden_bit_power]
      exact reached
    have low := canonical.low
    omega
  · have missed := lt_of_not_ge reached
    by_cases least : q = -1074
    · have less : floorLog2 num den < q + 52 := by
        rw [← two_zpow_lt_iff, shifted, ← hidden_bit_power]
        exact lt_of_le_of_lt floor_low missed
      omega
    · have edge := edge_of_missed canonical least low missed
      have greater : q > -1074 := lt_of_le_of_ne canonical.low fun same => least same.symm
      refine .inr ⟨edge, greater, missed, ?_⟩
      have exact : floorLog2 num den = q + 51 := by
        refine floor_log2_eq above below ?_ ?_
        · rw [shifted, ← le_div_iff₀ unit]
          refine le_trans ?_ low
          rw [reach, if_pos ⟨edge, greater⟩, edge, hidden_bit_power]
          norm_num
        · rw [add_assoc, shifted, show (51 : Int) + 1 = 52 from rfl, ← hidden_bit_power]
          exact missed
      omega

theorem hidden_bit_value : hiddenBit = 4503599627370496 := rfl

theorem assemble_edge {q : Int} (above : q > -1074) : assemble (2 * hiddenBit) (q - 1) = assemble hiddenBit q := by
  have value := hidden_bit_value
  rw [assemble, assemble, if_neg (by omega), if_neg (by omega), value]
  omega

theorem assemble_finite {m : Nat} {q : Int} (canonical : Canonical m q) : assemble m q < infinityBits := by
  obtain ⟨_, low, high, small, _⟩ := canonical
  have value := hidden_bit_value
  unfold assemble infinityBits
  split
  · omega
  · rw [value] at small ⊢
    omega

theorem scaled_ratio (num den : Nat) (k : Int) :
    ((num * (powerOfTwo k).2 : Nat) : ℚ) / (den * (powerOfTwo k).1 : Nat) = (num : ℚ) / den / 2 ^ k := by
  rw [← power_of_two_ratio, div_div_eq_mul_div, div_mul_eq_mul_div, div_div]
  push_cast
  rfl

theorem rounded_whole {m : Nat} {q : Int} (positive : 0 < m) {num den : Nat} (below : 0 < den)
    (within : (span m q).Within q ((num : ℚ) / den)) :
    roundHalfEven (num * (powerOfTwo q).2) (den * (powerOfTwo q).1) = m := by
  obtain ⟨low, high, inside⟩ := within_units positive within
  have half := reach_le_half m q
  apply round_half_even_ratio (Nat.mul_pos below (power_of_two_pos q).1)
  · rw [scaled_ratio]
    linarith
  · rw [scaled_ratio]
    exact high
  · intro odd
    rw [scaled_ratio]
    obtain ⟨upper, lower⟩ := inside odd
    exact ⟨by linarith, lower⟩

-- Right below a power of two the unit is half as large.
theorem rounded_edge {q : Int} (coarse : q > -1074) {num den : Nat} (below : 0 < den)
    (within : (span hiddenBit q).Within q ((num : ℚ) / den)) (less : (num : ℚ) / den < hiddenBit * 2 ^ q) :
    roundHalfEven (num * (powerOfTwo (q - 1)).2) (den * (powerOfTwo (q - 1)).1) = 2 * hiddenBit := by
  obtain ⟨low, _, _⟩ := within_units (by decide) within
  have twice : (num : ℚ) / den / 2 ^ (q - 1) = 2 * ((num : ℚ) / den / 2 ^ q) := by
    rw [zpow_sub_one₀ (by norm_num)]
    field_simp
  have units := (div_lt_iff₀ (two_zpow_pos q)).mpr less
  rw [reach, if_pos ⟨rfl, coarse⟩] at low
  apply round_half_even_ratio (Nat.mul_pos below (power_of_two_pos (q - 1)).1)
  · rw [scaled_ratio, twice]
    push_cast
    linarith
  · rw [scaled_ratio, twice]
    push_cast
    linarith
  · intro odd
    omega

-- A ratio in the span of a double is rounded to it.
theorem of_ratio_within (negative : Bool) {m : Nat} {q : Int} (canonical : Canonical m q) {num den : Nat} (below : 0 < den)
    (within : (span m q).Within q ((num : ℚ) / den)) : ofRatio negative num den = withSign negative (assemble m q) := by
  have above : 0 < num := by
    have ratio : (0 : ℚ) < num / den := lt_of_lt_of_le (two_zpow_pos _) (within_bounds canonical within).1
    have above : (0 : ℚ) < num := (div_pos_iff_of_pos_right (by exact_mod_cast below)).mp ratio
    exact_mod_cast above
  have rounded : assemble (roundHalfEven (num * (powerOfTwo (max (floorLog2 num den - 52) (-1074))).2)
      (den * (powerOfTwo (max (floorLog2 num den - 52) (-1074))).1)) (max (floorLog2 num den - 52) (-1074)) =
        assemble m q := by
    obtain unit | ⟨rfl, coarse, less, unit⟩ := rounding_unit canonical below within above
    · rw [unit, rounded_whole canonical.positive below within]
    · rw [unit, rounded_edge coarse below within less, assemble_edge coarse]
  have finite := assemble_finite canonical
  simp only [ofRatio, rounded]
  rw [if_neg (by omega), if_neg (by omega)]

end EbsiDid.Binary64
