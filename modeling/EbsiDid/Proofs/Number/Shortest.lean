import EbsiDid.Proofs.Number.Digits
import EbsiDid.Proofs.Number.Rounding

set_option autoImplicit false

/-!
The decimal that is found for a double lies in its span, so that it reads back as that double. The search over
ever finer grids ends: a grid whose steps are less than half a unit has a point right above the double.
-/
namespace EbsiDid.Binary64

open Number

/-! ### Points of a grid -/

theorem ten_zpow_pos (k : Int) : (0 : ℚ) < 10 ^ k := zpow_pos (by norm_num) k

-- Both sides of a scale count in the same small unit.
theorem scale_ratio (q e : Int) : ((scale q e).grid : ℚ) / (scale q e).quarters = 10 ^ e / 2 ^ (q - 2) := by
  rw [← power_of_ten_ratio, ← power_of_two_ratio]
  simp only [scale]
  have two : ((powerOfTwo (q - 2)).1 : ℚ) ≠ 0 := by exact_mod_cast (power_of_two_pos (q - 2)).1.ne'
  have two' : ((powerOfTwo (q - 2)).2 : ℚ) ≠ 0 := by exact_mod_cast (power_of_two_pos (q - 2)).2.ne'
  have ten : ((powerOfTen e).2 : ℚ) ≠ 0 := by exact_mod_cast (power_of_ten_pos e).2.ne'
  push_cast
  field_simp

theorem scale_pos (q e : Int) : 0 < (scale q e).quarters ∧ 0 < (scale q e).grid :=
  ⟨Nat.mul_pos (power_of_two_pos _).1 (power_of_ten_pos _).2, Nat.mul_pos (power_of_ten_pos _).1 (power_of_two_pos _).2⟩

-- So comparisons on a scale are comparisons of the numbers themselves.
theorem scale_le (q e : Int) (n d : Nat) :
    (n * (scale q e).quarters ≤ d * (scale q e).grid ↔ (n : ℚ) * 2 ^ (q - 2) ≤ d * 10 ^ e) ∧
      (d * (scale q e).grid ≤ n * (scale q e).quarters ↔ (d : ℚ) * 10 ^ e ≤ n * 2 ^ (q - 2)) := by
  have unit := two_zpow_pos (q - 2)
  have quarters : (0 : ℚ) < (scale q e).quarters := by exact_mod_cast (scale_pos q e).1
  have ratio := scale_ratio q e
  rw [div_eq_div_iff quarters.ne' unit.ne'] at ratio
  have left : ((n * (scale q e).quarters : Nat) : ℚ) * 2 ^ (q - 2) = n * 2 ^ (q - 2) * (scale q e).quarters := by
    push_cast
    ring
  have right : ((d * (scale q e).grid : Nat) : ℚ) * 2 ^ (q - 2) = d * 10 ^ e * (scale q e).quarters := by
    push_cast
    rw [mul_assoc, ratio, mul_assoc]
  constructor
  · rw [← Nat.cast_le (α := ℚ), ← mul_le_mul_iff_left₀ unit, left, right, mul_le_mul_iff_left₀ quarters]
  · rw [← Nat.cast_le (α := ℚ), ← mul_le_mul_iff_left₀ unit, left, right, mul_le_mul_iff_left₀ quarters]

theorem scale_lt (q e : Int) (n d : Nat) :
    (n * (scale q e).quarters < d * (scale q e).grid ↔ (n : ℚ) * 2 ^ (q - 2) < d * 10 ^ e) ∧
      (d * (scale q e).grid < n * (scale q e).quarters ↔ (d : ℚ) * 10 ^ e < n * 2 ^ (q - 2)) := by
  obtain ⟨least, greatest⟩ := scale_le q e n d
  constructor
  · rw [← not_le, greatest, not_le]
  · rw [← not_le, least, not_le]

theorem holds_within {s : Span} {q e : Int} {d : Nat} :
    s.holds (scale q e) d = true ↔ s.Within q ((d : ℚ) * 10 ^ e) := by
  simp only [Span.holds, Span.Within]
  cases s.closed with
  | true =>
      simp only [if_true, decide_eq_true_eq, (scale_le q e s.low d).1, (scale_le q e s.high d).2]
      constructor
      · rintro ⟨above, below⟩
        exact ⟨above, below, nofun⟩
      · rintro ⟨above, below, _⟩
        exact ⟨above, below⟩
  | false =>
      simp only [Bool.false_eq_true, if_false, decide_eq_true_eq, (scale_lt q e s.low d).1, (scale_lt q e s.high d).2]
      constructor
      · rintro ⟨above, below⟩
        exact ⟨above.le, below.le, fun _ => ⟨above, below⟩⟩
      · rintro ⟨_, _, inside⟩
        exact inside trivial

theorem grid_point_holds {m : Nat} {q e : Int} {d : Nat} (found : gridPoint? m q e = some d) :
    (span m q).Within q ((d : ℚ) * 10 ^ e) := by
  rw [← holds_within]
  simp only [gridPoint?] at found
  split at found
  · rename_i below above
    split at found
    · cases found
      exact below
    · cases found
      exact above
  · rename_i below _
    cases found
    exact below
  · rename_i _ above
    cases found
    exact above
  · cases found

-- On a grid with steps of less than half a unit, the first point above the double is in its span.
theorem next_point_within (m : Nat) {q e : Int} (fine : (10 : ℚ) ^ e < 2 ^ (q - 1)) :
    (span m q).Within q ((4 * m * (scale q e).quarters / (scale q e).grid + 1 : Nat) * 10 ^ e) := by
  have next_point : 4 * m * (scale q e).quarters <
      (4 * m * (scale q e).quarters / (scale q e).grid + 1) * (scale q e).grid :=
    lt_of_lt_of_eq (Nat.lt_mul_div_succ _ (scale_pos q e).2) (Nat.mul_comm _ _)
  have passed := (scale_lt q e (4 * m) _).1.mp next_point
  have under := (scale_le q e (4 * m) _).2.mp (Nat.div_mul_le_self (4 * m * (scale q e).quarters) (scale q e).grid)
  have unit := two_zpow_pos (q - 2)
  have double : (2 : ℚ) ^ (q - 1) = 2 * 2 ^ (q - 2) := by
    rw [show q - 1 = q - 2 + 1 by omega, zpow_add_one₀ (by norm_num), mul_comm]
  have low : (span m q).low * (2 : ℚ) ^ (q - 2) ≤ (4 * m : Nat) * 2 ^ (q - 2) := by
    gcongr
    simp only [span]
    split <;> omega
  have high : ((span m q).high : ℚ) * 2 ^ (q - 2) = (4 * m : Nat) * 2 ^ (q - 2) + 2 ^ (q - 1) := by
    rw [double, span]
    push_cast
    ring
  have next (below : Nat) : ((below + 1 : Nat) : ℚ) * 10 ^ e = below * 10 ^ e + 10 ^ e := by
    push_cast
    ring
  have beneath : (4 * m * (scale q e).quarters / (scale q e).grid + 1 : Nat) * (10 : ℚ) ^ e <
      (span m q).high * 2 ^ (q - 2) := by
    rw [next, high]
    linarith
  have beyond := lt_of_le_of_lt low passed
  exact ⟨beyond.le, beneath.le, fun _ => ⟨beyond, beneath⟩⟩

theorem grid_point_found (m : Nat) {q e : Int} (fine : (10 : ℚ) ^ e < 2 ^ (q - 1)) : gridPoint? m q e ≠ none := by
  have above := holds_within.mpr (next_point_within m fine)
  simp only [gridPoint?, above]
  cases (span m q).holds (scale q e) (4 * m * (scale q e).quarters / (scale q e).grid) with
  | true =>
      dsimp only
      split <;> exact nofun
  | false => exact nofun

/-! ### The search -/

-- The last of the grids is fine enough.
theorem search_found {m : Nat} {q : Int} (steps : Nat) {start : Int}
    (last : gridPoint? m q (start - steps) ≠ none) :
    gridPoint? m q (searchGrid m q (steps + 1) start).2 = some (searchGrid m q (steps + 1) start).1 := by
  induction steps generalizing start with
  | zero =>
      cases found : gridPoint? m q start with
      | some d => simp only [searchGrid, found]
      | none => exact absurd found (by simpa using last)
  | succ steps ih =>
      cases found : gridPoint? m q start with
      | some d => rw [searchGrid, found]; exact found
      | none =>
          rw [searchGrid, found]
          apply ih
          rw [show start - 1 - (steps : Int) = start - (steps + 1 : Nat) by omega]
          exact last

-- Compared by 10 ^ 3 < 2 ^ 10 upwards from one, and by 2 ^ 93 < 10 ^ 28 downwards.
theorem ten_power_lt {e k : Int} (up : 10 * e < 3 * k) (down : 93 * e < 28 * k) : (10 : ℚ) ^ e < 2 ^ k := by
  have ten := ten_zpow_pos e
  have two := two_zpow_pos k
  obtain positive | negative := le_or_gt 0 e
  · refine lt_of_pow_lt_pow_left₀ 3 two.le ?_
    calc ((10 : ℚ) ^ e) ^ 3 = (10 ^ 3) ^ e := by rw [← zpow_natCast, ← zpow_natCast, zpow_comm]
      _ ≤ (2 ^ 10) ^ e := zpow_le_zpow_left₀ positive (by norm_num) (by norm_num)
      _ = 2 ^ (10 * e) := by rw [zpow_mul]; norm_num
      _ < 2 ^ (3 * k) := two_zpow_lt_iff.mpr up
      _ = (2 ^ k) ^ 3 := by rw [mul_comm, zpow_mul]; norm_cast
  · refine lt_of_pow_lt_pow_left₀ 28 two.le ?_
    have inverse : ((10 : ℚ) ^ 28) ^ e ≤ (2 ^ 93) ^ e := by
      obtain ⟨n, rfl⟩ : ∃ n : Nat, e = -(n : Int) := ⟨e.natAbs, by omega⟩
      rw [zpow_neg, zpow_neg, zpow_natCast, zpow_natCast]
      gcongr
      norm_num
    calc ((10 : ℚ) ^ e) ^ 28 = (10 ^ 28) ^ e := by rw [← zpow_natCast, ← zpow_natCast, zpow_comm]
      _ ≤ (2 ^ 93) ^ e := inverse
      _ = 2 ^ (93 * e) := by rw [zpow_mul]; norm_num
      _ < 2 ^ (28 * k) := two_zpow_lt_iff.mpr down
      _ = (2 ^ k) ^ 28 := by rw [mul_comm, zpow_mul]; norm_cast

theorem last_grid_fine {m : Nat} {q : Int} (canonical : Canonical m q) :
    (10 : ℚ) ^ (decimalCeiling m q - (24 : Nat)) < 2 ^ (q - 1) := by
  have bits : m.log2 ≤ 52 := by
    have value := hidden_bit_value
    have small := canonical.small
    have less : m.log2 < 53 := (Nat.log2_lt canonical.positive.ne').mpr (by omega)
    omega
  have low := canonical.low
  have high := canonical.high
  simp only [decimalCeiling]
  apply ten_power_lt
  · omega
  · omega

theorem shortest_within {m : Nat} {q : Int} (canonical : Canonical m q) :
    (span m q).Within q (((shortest m q).1 : ℚ) * 10 ^ (shortest m q).2) := by
  refine grid_point_holds (search_found 24 ?_)
  exact grid_point_found m (last_grid_fine canonical)

/-! ### Decimals -/

theorem digits_of_magnitude {d : Nat} (pos : 0 < d) :
    (10 : ℚ) ^ (((digitsOf d).length : Int) - 1) ≤ d ∧ (d : ℚ) < 10 ^ ((digitsOf d).length : Int) := by
  have positive : 0 < (digitsOf d).length := Nat.length_toDigits_pos
  have below : d < 10 ^ (digitsOf d).length := (Nat.length_toDigits_le_iff (by decide) positive).mp le_rfl
  have above : 10 ^ ((digitsOf d).length - 1) ≤ d := by
    by_contra less
    obtain single | more : (digitsOf d).length = 1 ∨ 0 < (digitsOf d).length - 1 := by omega
    · rw [single] at less
      omega
    · have short := (Nat.length_toDigits_le_iff (by decide) more).mpr (lt_of_not_ge less)
      change (digitsOf d).length ≤ _ at short
      omega
  constructor
  · rw [show ((digitsOf d).length : Int) - 1 = ((digitsOf d).length - 1 : Nat) by omega, zpow_natCast]
    exact_mod_cast above
  · rw [zpow_natCast]
    exact_mod_cast below

-- A decimal in the span of a double is rounded to it.
theorem of_decimal_within (negative : Bool) {m : Nat} {q : Int} (canonical : Canonical m q) {d : Nat} {e : Int}
    (within : (span m q).Within q ((d : ℚ) * 10 ^ e)) : ofDecimal negative d e = withSign negative (assemble m q) := by
  obtain ⟨least, most⟩ := within_bounds canonical within
  have unit := ten_zpow_pos e
  have pos : 0 < d := by
    have above : (0 : ℚ) < d := (mul_pos_iff_of_pos_right unit).mp (lt_of_lt_of_le (two_zpow_pos _) least)
    exact_mod_cast above
  obtain ⟨low, high⟩ := digits_of_magnitude pos
  have small : ((digitsOf d).length : Int) + e ≤ 400 := by
    by_contra large
    have above : (10 : ℚ) ^ (((digitsOf d).length : Int) - 1 + e) ≤ 2 ^ (1024 : Int) := by
      rw [zpow_add₀ (by norm_num)]
      exact le_trans (mul_le_mul_of_nonneg_right low unit.le) most
    have below : (10 : ℚ) ^ (-(((digitsOf d).length : Int) - 1 + e)) < 2 ^ (-1024 : Int) :=
      ten_power_lt (by omega) (by omega)
    rw [zpow_neg, zpow_neg, inv_lt_inv₀ (ten_zpow_pos _) (two_zpow_pos _)] at below
    exact absurd above (not_le_of_gt below)
  have large : -400 ≤ ((digitsOf d).length : Int) + e := by
    by_contra small
    have below : (10 : ℚ) ^ (((digitsOf d).length : Int) + e) < 2 ^ (-1075 : Int) := ten_power_lt (by omega) (by omega)
    rw [zpow_add₀ (by norm_num)] at below
    have above := lt_of_le_of_lt least (mul_lt_mul_of_pos_right high unit)
    exact absurd above (not_lt_of_gt below)
  have ratio : ((d * (powerOfTen e).1 : Nat) : ℚ) / (powerOfTen e).2 = d * 10 ^ e := by
    rw [Nat.cast_mul, mul_div_assoc, power_of_ten_ratio]
  rw [← ratio] at within
  rw [ofDecimal, if_neg (by omega), if_neg (by omega)]
  exact of_ratio_within negative canonical (power_of_ten_pos e).2 within

end EbsiDid.Binary64
