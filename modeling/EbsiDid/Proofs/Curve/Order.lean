import EbsiDid.Proofs.Curve.BasePoint
import EbsiDid.Proofs.Curve.Group
import Mathlib.GroupTheory.OrderOfElement

set_option autoImplicit false

/-!
The base point of each curve has the order that the curve states, which is a prime. So every number that can be a
private key has a public key, and it is a point of the curve.
-/
namespace EbsiDid.Curve

def smallOrderPrimes : List Nat :=
  [2, 3, 5, 7, 11, 17, 19, 29, 31, 41, 43, 59, 71, 97, 109, 113, 127, 131, 149, 229, 263, 293, 311, 337, 373, 461, 631,
    797, 1201, 1297, 1871, 2011, 2731, 3023, 3407, 4051, 9349, 16699, 16879, 17449, 28181, 38189, 85831]

theorem small_order_primes : ∀ q ∈ smallOrderPrimes, q.Prime := by norm_num [smallOrderPrimes]

def secp256k1OrderTests : List LucasTest :=
  [⟨120233, 3, [2, 2, 2, 7, 19, 113]⟩,
   ⟨305873, 3, [2, 2, 2, 2, 7, 2731]⟩,
   ⟨1627771, 3, [2, 3, 5, 29, 1871]⟩,
   ⟨4681609, 23, [2, 2, 2, 3, 97, 2011]⟩,
   ⟨44706919, 6, [2, 3, 797, 9349]⟩,
   ⟨545358713, 5, [2, 2, 2, 41, 59, 28181]⟩,
   ⟨297159362677, 2, [2, 2, 3, 3, 11, 461, 1627771]⟩,
   ⟨107361793816595537, 3, [2, 2, 2, 2, 16699, 85831, 4681609]⟩,
   ⟨174723607534414371449, 3, [2, 2, 2, 17, 59, 4051, 120233, 44706919]⟩,
   ⟨29047611873442575647497758179, 2, [2, 293, 305873, 545358713, 297159362677]⟩,
   ⟨341948486974166000522343609283189, 2, [2, 2, 3, 3, 3, 109, 29047611873442575647497758179]⟩,
   ⟨secp256k1.order, 7, [2, 2, 2, 2, 2, 2, 3, 149, 631, 107361793816595537, 174723607534414371449,
    341948486974166000522343609283189]⟩]

def secp256r1OrderTests : List LucasTest :=
  [⟨104471, 11, [2, 5, 31, 337]⟩,
   ⟨126241, 7, [2, 2, 2, 2, 2, 3, 5, 263]⟩,
   ⟨155317, 5, [2, 2, 3, 7, 43, 43]⟩,
   ⟨3969899, 2, [2, 19, 104471]⟩,
   ⟨9350987, 2, [2, 17, 229, 1201]⟩,
   ⟨187019741, 2, [2, 2, 5, 9350987]⟩,
   ⟨191039911, 3, [2, 3, 5, 41, 155317]⟩,
   ⟨311245691, 2, [2, 5, 7, 17, 29, 29, 311]⟩,
   ⟨622491383, 5, [2, 311245691]⟩,
   ⟨1002328039319, 19, [2, 126241, 3969899]⟩,
   ⟨208150935158385979, 2, [2, 3, 11, 43, 127, 3023, 191039911]⟩,
   ⟨2624747550333869278416773953, 7, [2, 2, 2, 2, 2, 2, 3, 3, 1297, 16879, 208150935158385979]⟩,
   ⟨secp256r1.order, 7, [2, 2, 2, 2, 3, 71, 131, 373, 3407, 17449, 38189, 187019741, 622491383, 1002328039319,
    2624747550333869278416773953]⟩]

theorem order_prime (type : KeyType) : (ofType type).order.Prime := by
  cases type with
  | secp256k1 =>
      have passed : LucasTest.allPass secp256k1OrderTests smallOrderPrimes = true := by decide +kernel
      exact LucasTest.all_pass_prime small_order_primes passed _ (List.mem_of_getLast? rfl)
  | secp256r1 =>
      have passed : LucasTest.allPass secp256r1OrderTests smallOrderPrimes = true := by decide +kernel
      exact LucasTest.all_pass_prime small_order_primes passed _ (List.mem_of_getLast? rfl)

-- No tangent at the base point is vertical.
theorem base_nonsingular (type : KeyType) :
    (weierstrass type).Nonsingular (basePoint type).x (basePoint type).y := by
  obtain ⟨_, below, equation⟩ := holds_equation.mp (base_point_holds type)
  refine (WeierstrassCurve.Affine.nonsingular_iff _ _).mpr ⟨equation, .inr ?_⟩
  intro flat
  have vanishes : (((basePoint type).y + (basePoint type).y : Nat) : ZMod (ofType type).p) = 0 := by
    rw [Nat.cast_add]
    have opposite := (@neg_y type (basePoint type).x (basePoint type).y).symm.trans flat.symm
    exact eq_neg_iff_add_eq_zero.mp opposite.symm
  rw [ZMod.natCast_eq_zero_iff] at vanishes
  have rises : ((basePoint type).y + (basePoint type).y) % (ofType type).p ≠ 0 := by cases type <;> decide +kernel
  exact rises (Nat.mod_eq_zero_of_dvd vanishes)

def base (type : KeyType) : (weierstrass type).Point := .some _ _ (base_nonsingular type)

theorem stands_base (type : KeyType) : Stands type ⟨(ofType type).gx, (ofType type).gy, 1⟩ (base type) := by
  refine ⟨?_, ?_, ?_⟩
  · rw [Nat.cast_one]
    exact one_ne_zero
  · rw [Nat.cast_one, one_pow, mul_one]
    rfl
  · rw [Nat.cast_one, one_pow, mul_one]
    rfl

theorem stands_zero {type : KeyType} {q : Jacobian} {P : (weierstrass type).Point} (stands : Stands type q P)
    (zero : q.z = 0) : P = 0 := by
  cases P with
  | zero => rfl
  | some x y on =>
      obtain ⟨nonzero, _⟩ := stands
      rw [zero, Nat.cast_zero] at nonzero
      exact absurd rfl nonzero

theorem order_base (type : KeyType) : (ofType type).order • base type = 0 := by
  have last : ((ofType type).multiple ⟨(ofType type).gx, (ofType type).gy, 1⟩ (ofType type).order).z = 0 := by
    cases type <;> decide +kernel
  exact stands_zero (stands_multiple (stands_base type) _) last

theorem multiple_base_ne_zero {type : KeyType} {k : Nat} (positive : 0 < k) (below : k < (ofType type).order) :
    k • base type ≠ 0 := by
  have : Fact (ofType type).order.Prime := ⟨order_prime type⟩
  have order := addOrderOf_eq_prime (order_base type) (WeierstrassCurve.Affine.Point.some_ne_zero (base_nonsingular type))
  intro vanishes
  have divides := addOrderOf_dvd_of_nsmul_eq_zero vanishes
  rw [order] at divides
  exact absurd (Nat.le_of_dvd positive divides) (Nat.not_le.mpr below)

section Scalars

variable {type : KeyType} {k : Nat}

-- Whatever the base point is multiplied with, what comes of it is on the curve.
theorem of_scalar_holds {q : Point} (derived : (ofType type).ofScalar? k = some q) : (ofType type).holds q = true := by
  have stands := stands_multiple (stands_base type) k
  rw [ofScalar?] at derived
  generalize k • base type = P at stands
  cases P with
  | zero =>
      rw [affine_none stands] at derived
      cases derived
  | some x y on =>
      obtain ⟨point, found, holds⟩ := affine_some stands
      rw [found] at derived
      cases derived
      exact holds

-- Each number from one up to the order has its point.
theorem of_scalar_total (positive : 0 < k) (below : k < (ofType type).order) :
    ∃ q, (ofType type).ofScalar? k = some q := by
  have stands := stands_multiple (stands_base type) k
  have nonzero := multiple_base_ne_zero positive below
  rw [ofScalar?]
  generalize k • base type = P at stands nonzero
  cases P with
  | zero => exact absurd rfl nonzero
  | some x y on =>
      obtain ⟨point, found, _⟩ := affine_some stands
      exact ⟨point, found⟩

end Scalars

end EbsiDid.Curve
