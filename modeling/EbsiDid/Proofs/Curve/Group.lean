import EbsiDid.Proofs.Curve.Decoding
import Mathlib.AlgebraicGeometry.EllipticCurve.Affine.Point

set_option autoImplicit false

/-!
Doubling, adding and taking multiples follow the group of the curve. Three coordinates stand for a point of the
group, and each operation on them stands for the operation there.
-/
namespace EbsiDid

namespace Field

section Residues

variable (p a b : Nat)

theorem cast_add : ((add p a b : Nat) : ZMod p) = a + b := by
  rw [add, ZMod.natCast_mod, Nat.cast_add]

theorem cast_mul : ((mul p a b : Nat) : ZMod p) = a * b := by
  rw [mul, ZMod.natCast_mod, Nat.cast_mul]

theorem cast_sub [NeZero p] : ((sub p a b : Nat) : ZMod p) = a - b := by
  have below : b % p ≤ p := Nat.le_of_lt (Nat.mod_lt _ (NeZero.pos p))
  rw [sub, ZMod.natCast_mod, Nat.cast_add, Nat.cast_sub below, ZMod.natCast_self, ZMod.natCast_mod]
  ring

theorem cast_inverse [Fact p.Prime] (nonzero : (a : ZMod p) ≠ 0) : ((inverse p a : Nat) : ZMod p) = (a : ZMod p)⁻¹ := by
  have two : 2 ≤ p := (Fact.out : p.Prime).two_le
  have exponent : p - 1 = p - 2 + 1 := by omega
  have full := ZMod.pow_card_sub_one_eq_one nonzero
  rw [exponent, pow_succ] at full
  rw [inverse, pow_eq, ZMod.natCast_mod, Nat.cast_pow]
  exact eq_inv_of_mul_eq_one_left full

theorem mul_below [NeZero p] : mul p a b < p := Nat.mod_lt _ (NeZero.pos p)

end Residues

theorem cast_eq_iff {p a b : Nat} (first : a < p) (second : b < p) : (a : ZMod p) = b ↔ a = b := by
  rw [ZMod.natCast_eq_natCast_iff', Nat.mod_eq_of_lt first, Nat.mod_eq_of_lt second]

theorem cast_eq_zero_iff {p a : Nat} (below : a < p) : (a : ZMod p) = 0 ↔ a = 0 := by
  rw [← Nat.cast_zero, cast_eq_iff below (Nat.zero_lt_of_lt below)]

end Field

namespace Curve

open WeierstrassCurve

variable {type : KeyType}

instance prime_modulus (type : KeyType) : Fact (ofType type).p.Prime := ⟨p_prime type⟩

-- The same curve over the field of residues, where its points are a group.
def weierstrass (type : KeyType) : Affine (ZMod (ofType type).p) := ⟨0, 0, 0, (ofType type).a, (ofType type).b⟩

theorem neg_y (x y : ZMod (ofType type).p) : (weierstrass type).negY x y = -y := by
  simp [Affine.negY, weierstrass]

theorem equation_iff {x y : ZMod (ofType type).p} :
    (weierstrass type).Equation x y ↔ y ^ 2 = x ^ 3 + (ofType type).a * x + (ofType type).b := by
  simp [Affine.equation_iff, weierstrass]

theorem holds_equation {q : Point} : (ofType type).holds q = true ↔
    q.x < (ofType type).p ∧ q.y < (ofType type).p ∧ (weierstrass type).Equation (q.x : ZMod (ofType type).p) q.y := by
  have side : (ofType type).rightSide q.x < (ofType type).p := Nat.mod_lt _ (p_prime type).pos
  rw [holds_iff, equation_iff]
  refine and_congr_right fun _ => and_congr_right fun _ => ?_
  rw [← Field.cast_eq_iff (Nat.mod_lt _ (p_prime type).pos) side, ZMod.natCast_mod, Nat.cast_mul, ← pow_two, rightSide,
    Field.cast_add, Field.cast_mul, Field.cast_add, Field.cast_mul]
  ring_nf

/-! ### Three coordinates for a point -/

-- The neutral point has no third coordinate. Any other is found by dividing by powers of it.
def Stands (type : KeyType) (q : Jacobian) : (weierstrass type).Point → Prop
  | .zero => q.z = 0
  | .some x y _ => (q.z : ZMod (ofType type).p) ≠ 0 ∧ q.x = x * (q.z : ZMod (ofType type).p) ^ 2 ∧
      q.y = y * (q.z : ZMod (ofType type).p) ^ 3

theorem stands_neutral : Stands type neutral 0 := rfl

section Doubles

variable {q : Jacobian} {x y : ZMod (ofType type).p} (on : (weierstrass type).Nonsingular x y)
  (stands : Stands type q (.some x y on))

include stands

theorem double_third : (((ofType type).double q).z : ZMod (ofType type).p) = (y + y) * q.z ^ 4 := by
  obtain ⟨_, _, second⟩ := stands
  simp only [double, Field.cast_mul, second]
  push_cast
  ring

theorem stands_tangent (steep : y ≠ (weierstrass type).negY x y) :
    Stands type ((ofType type).double q) (.some x y on + .some x y on) := by
  have third := double_third on stands
  obtain ⟨nonzero, first, second⟩ := stands
  have rises : y + y ≠ 0 := by
    rw [neg_y] at steep
    exact fun vanishes => steep (eq_neg_iff_add_eq_zero.mpr vanishes)
  have slope : (weierstrass type).slope x x y y * (y + y) = 3 * x ^ 2 + (ofType type).a := by
    rw [Affine.slope_of_Y_ne rfl steep, neg_y, sub_neg_eq_add, div_mul_cancel₀ _ rises]
    simp [weierstrass]
  rw [Affine.Point.add_self_of_Y_ne steep]
  refine ⟨?_, ?_, ?_⟩ <;> generalize (weierstrass type).slope x x y y = l at slope
  · rw [third]
    exact mul_ne_zero rises (pow_ne_zero 4 nonzero)
  · rw [third]
    simp only [double, Field.cast_mul, Field.cast_sub, Field.cast_add, first, second, Affine.addX, weierstrass]
    push_cast
    linear_combination (-(l * (y + y) + (3 * x ^ 2 + (ofType type).a)) * (q.z : ZMod (ofType type).p) ^ 8) * slope
  · rw [third]
    simp only [double, Field.cast_mul, Field.cast_sub, Field.cast_add, first, second, Affine.addX, Affine.addY,
      Affine.negAddY, Affine.negY, weierstrass]
    push_cast
    linear_combination (((l * (y + y)) ^ 2 + l * (y + y) * (3 * x ^ 2 + (ofType type).a)
      + (3 * x ^ 2 + (ofType type).a) ^ 2 - 12 * x * y ^ 2) * (q.z : ZMod (ofType type).p) ^ 12) * slope

end Doubles

theorem stands_double {q : Jacobian} {P : (weierstrass type).Point} (stands : Stands type q P) :
    Stands type ((ofType type).double q) (P + P) := by
  cases P with
  | zero =>
      change q.z = 0 at stands
      change Field.mul _ 2 (Field.mul _ q.y q.z) = 0
      rw [stands]
      simp [Field.mul]
  | some x y on =>
      by_cases flat : y = (weierstrass type).negY x y
      · rw [Affine.Point.add_self_of_Y_eq flat]
        have vanishes : y + y = 0 := by
          rw [neg_y] at flat
          exact eq_neg_iff_add_eq_zero.mp flat
        have third := double_third on stands
        rw [vanishes, zero_mul] at third
        exact (Field.cast_eq_zero_iff (Field.mul_below _ _ _)).mp third
      · exact stands_tangent on stands flat

section Sums

variable {q r : Jacobian} {x y x' y' : ZMod (ofType type).p} (nonzero : (q.z : ZMod (ofType type).p) ≠ 0)
  (nonzero' : (r.z : ZMod (ofType type).p) ≠ 0)

include nonzero nonzero'

-- The two first coordinates, brought to one scale, are the same when the abscissas are.
theorem same_abscissa (first : q.x = x * (q.z : ZMod (ofType type).p) ^ 2)
    (first' : r.x = x' * (r.z : ZMod (ofType type).p) ^ 2) :
    Field.mul (ofType type).p q.x (Field.mul (ofType type).p r.z r.z) =
      Field.mul (ofType type).p r.x (Field.mul (ofType type).p q.z q.z) ↔ x = x' := by
  have scale : ((q.z : ZMod (ofType type).p) * r.z) ^ 2 ≠ 0 := pow_ne_zero 2 (mul_ne_zero nonzero nonzero')
  have left : x * (q.z : ZMod (ofType type).p) ^ 2 * (r.z * r.z) = x * (q.z * r.z) ^ 2 := by ring
  have right : x' * (r.z : ZMod (ofType type).p) ^ 2 * (q.z * q.z) = x' * (q.z * r.z) ^ 2 := by ring
  rw [← Field.cast_eq_iff (Field.mul_below _ _ _) (Field.mul_below _ _ _)]
  simp only [Field.cast_mul, first, first', left, right]
  exact mul_left_inj' scale

theorem same_ordinate (second : q.y = y * (q.z : ZMod (ofType type).p) ^ 3)
    (second' : r.y = y' * (r.z : ZMod (ofType type).p) ^ 3) :
    Field.mul (ofType type).p q.y (Field.mul (ofType type).p (Field.mul (ofType type).p r.z r.z) r.z) =
      Field.mul (ofType type).p r.y (Field.mul (ofType type).p (Field.mul (ofType type).p q.z q.z) q.z) ↔ y = y' := by
  have scale : ((q.z : ZMod (ofType type).p) * r.z) ^ 3 ≠ 0 := pow_ne_zero 3 (mul_ne_zero nonzero nonzero')
  have left : y * (q.z : ZMod (ofType type).p) ^ 3 * (r.z * r.z * r.z) = y * (q.z * r.z) ^ 3 := by ring
  have right : y' * (r.z : ZMod (ofType type).p) ^ 3 * (q.z * q.z * q.z) = y' * (q.z * r.z) ^ 3 := by ring
  rw [← Field.cast_eq_iff (Field.mul_below _ _ _) (Field.mul_below _ _ _)]
  simp only [Field.cast_mul, second, second', left, right]
  exact mul_left_inj' scale

end Sums

theorem third_nonzero {q : Jacobian} (nonzero : (q.z : ZMod (ofType type).p) ≠ 0) : q.z ≠ 0 :=
  fun zero => nonzero (by rw [zero, Nat.cast_zero])

theorem stands_chord {q r : Jacobian} {x y x' y' : ZMod (ofType type).p} (on : (weierstrass type).Nonsingular x y)
    (on' : (weierstrass type).Nonsingular x' y') (stands : Stands type q (.some x y on))
    (other : Stands type r (.some x' y' on')) (apart : x ≠ x') :
    Stands type ((ofType type).add q r) (.some x y on + .some x' y' on') := by
  obtain ⟨nonzero, first, second⟩ := stands
  obtain ⟨nonzero', first', second'⟩ := other
  have slope : (weierstrass type).slope x x' y y' * (x - x') = y - y' := by
    rw [Affine.slope_of_X_ne apart, div_mul_cancel₀ _ (sub_ne_zero.mpr apart)]
  simp only [add, if_neg (third_nonzero nonzero), if_neg (third_nonzero nonzero'),
    same_abscissa nonzero nonzero' first first', if_neg apart]
  rw [Affine.Point.add_of_X_ne apart]
  refine ⟨?_, ?_, ?_⟩ <;> generalize (weierstrass type).slope x x' y y' = l at slope
  · simp only [Field.cast_mul, Field.cast_sub, first, first']
    have third : (x' * (r.z : ZMod (ofType type).p) ^ 2 * (q.z * q.z) - x * q.z ^ 2 * (r.z * r.z)) * (q.z * r.z) =
        (x' - x) * (q.z * r.z) ^ 3 := by ring
    rw [third]
    exact mul_ne_zero (sub_ne_zero.mpr (Ne.symm apart)) (pow_ne_zero 3 (mul_ne_zero nonzero nonzero'))
  · simp only [Field.cast_mul, Field.cast_sub, first, first', second, second', Affine.addX, weierstrass]
    push_cast
    linear_combination (-(l * (x - x') + (y - y')) * (q.z * r.z) ^ 6) * slope
  · simp only [Field.cast_mul, Field.cast_sub, first, first', second, second', Affine.addX, Affine.addY,
      Affine.negAddY, Affine.negY, weierstrass]
    push_cast
    linear_combination (-((l * (x - x')) ^ 2 + l * (x - x') * (y - y') + (y - y') ^ 2
      - (2 * x + x') * (x' - x) ^ 2) * (q.z * r.z) ^ 9) * slope

theorem stands_add {q r : Jacobian} {P R : (weierstrass type).Point} (stands : Stands type q P) (other : Stands type r R) :
    Stands type ((ofType type).add q r) (P + R) := by
  cases P with
  | zero =>
      change q.z = 0 at stands
      rw [add, if_pos stands]
      exact other
  | some x y on =>
      cases R with
      | zero =>
          change r.z = 0 at other
          rw [add, if_neg (third_nonzero stands.1), if_pos other]
          exact stands
      | some x' y' on' =>
          by_cases abscissa : x = x'
          · subst abscissa
            have here := third_nonzero stands.1
            have there := third_nonzero other.1
            simp only [add, if_neg here, if_neg there, same_abscissa stands.1 other.1 stands.2.1 other.2.1,
              if_true, same_ordinate stands.1 other.1 stands.2.2 other.2.2]
            by_cases ordinate : y = y'
            · subst ordinate
              rw [if_pos rfl]
              exact stands_double stands
            · have opposite := (Affine.Y_eq_of_X_eq on.1 on'.1 rfl).resolve_left ordinate
              rw [if_neg ordinate, Affine.Point.add_of_Y_eq rfl opposite]
              exact stands_neutral
          · exact stands_chord on on' stands other abscissa

theorem stands_multiple {q : Jacobian} {P : (weierstrass type).Point} (stands : Stands type q P) (k : Nat) :
    Stands type ((ofType type).multiple q k) (k • P) := by
  induction k using Nat.strongRecOn with
  | _ k ih =>
      rw [multiple]
      by_cases zero : k = 0
      · rw [if_pos zero, zero, zero_nsmul]
        exact stands_neutral
      · have twice := stands_double (ih (k / 2) (by omega))
        rw [← add_nsmul] at twice
        simp only [if_neg zero]
        by_cases odd : k % 2 = 1
        · have parts : k = k / 2 + k / 2 + 1 := by omega
          have sum := stands_add twice stands
          rw [← succ_nsmul, ← parts] at sum
          rw [if_pos odd]
          exact sum
        · have parts : k / 2 + k / 2 = k := by omega
          rw [parts] at twice
          rw [if_neg odd]
          exact twice

/-! ### From three coordinates to two -/

-- A point has two coordinates on the curve unless it is the neutral one.
theorem affine_none {q : Jacobian} (stands : Stands type q 0) : (ofType type).affine? q = none := if_pos stands

theorem affine_some {q : Jacobian} {x y : ZMod (ofType type).p} {on : (weierstrass type).Nonsingular x y}
    (stands : Stands type q (.some x y on)) :
    ∃ point, (ofType type).affine? q = some point ∧ (ofType type).holds point = true := by
  obtain ⟨nonzero, first, second⟩ := stands
  rw [affine?, if_neg (third_nonzero nonzero)]
  refine ⟨_, rfl, holds_equation.mpr ⟨Field.mul_below _ _ _, Field.mul_below _ _ _, ?_⟩⟩
  have inverse : (q.z : ZMod (ofType type).p) * (q.z : ZMod (ofType type).p)⁻¹ = 1 := mul_inv_cancel₀ nonzero
  have abscissa : x * (q.z : ZMod (ofType type).p) ^ 2 *
      ((q.z : ZMod (ofType type).p)⁻¹ * (q.z : ZMod (ofType type).p)⁻¹) = x := by
    linear_combination x * (q.z * (q.z : ZMod (ofType type).p)⁻¹ + 1) * inverse
  have ordinate : y * (q.z : ZMod (ofType type).p) ^ 3 * ((q.z : ZMod (ofType type).p)⁻¹ *
      (q.z : ZMod (ofType type).p)⁻¹ * (q.z : ZMod (ofType type).p)⁻¹) = y := by
    linear_combination y * ((q.z * (q.z : ZMod (ofType type).p)⁻¹) ^ 2 + q.z * (q.z : ZMod (ofType type).p)⁻¹ + 1) * inverse
  simp only [Field.cast_mul, Field.cast_inverse _ _ nonzero, first, second, abscissa, ordinate]
  exact on.1

end Curve
end EbsiDid
