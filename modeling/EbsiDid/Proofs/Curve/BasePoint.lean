import EbsiDid.Proofs.Curve.Prime

set_option autoImplicit false

/-!
The base points of both curves, and what the private key one makes of them.
-/
namespace EbsiDid

def basePoint (type : KeyType) : Point := ⟨(Curve.ofType type).gx, (Curve.ofType type).gy⟩

theorem base_point_holds (type : KeyType) : (Curve.ofType type).holds (basePoint type) = true := by
  cases type <;> decide +kernel

theorem pow_one {p : Nat} (prime : 1 < p) (e : Nat) : Field.pow p 1 e = 1 := by
  rw [Field.pow_eq, Nat.one_pow, Nat.mod_eq_of_lt prime]

theorem multiple_one (c : Curve) : c.multiple ⟨c.gx, c.gy, 1⟩ 1 = ⟨c.gx, c.gy, 1⟩ := by
  have start : c.multiple ⟨c.gx, c.gy, 1⟩ 0 = Curve.neutral := by rw [Curve.multiple, if_pos rfl]
  rw [Curve.multiple, if_neg Nat.one_ne_zero, start]
  simp [Curve.double, Curve.neutral, Field.mul, Curve.add]

theorem of_scalar_one (type : KeyType) : (Curve.ofType type).ofScalar? 1 = some (basePoint type) := by
  have prime : 1 < (Curve.ofType type).p := by cases type <;> decide +kernel
  have x : (Curve.ofType type).gx % (Curve.ofType type).p = (Curve.ofType type).gx := by cases type <;> decide +kernel
  have y : (Curve.ofType type).gy % (Curve.ofType type).p = (Curve.ofType type).gy := by cases type <;> decide +kernel
  rw [Curve.ofScalar?, multiple_one, Curve.affine?, if_neg Nat.one_ne_zero]
  simp [Field.inverse, pow_one prime, Field.mul, Nat.mod_eq_of_lt prime, x, y, basePoint]

end EbsiDid
