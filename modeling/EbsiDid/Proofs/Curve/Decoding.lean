import EbsiDid.Curve.Sec1
import EbsiDid.Proofs.Curve.Prime
import Mathlib.FieldTheory.Finite.Basic

set_option autoImplicit false

/-!
Exactly the compressed and the uncompressed form of a point of the curve decode as that point. The compressed
form leans on square roots: modulo a prime, the two roots of a square have different parities.
-/
namespace EbsiDid

namespace Field

-- A power of a square is one of its roots, and there are no others than that one and its opposite.
theorem sqrt_of_square {p y : Nat} (prime : p.Prime) (three : p % 4 = 3) (below : y < p) :
    ∃ r, sqrt? p (y * y % p) = some r ∧ r < p ∧ (r = y ∨ r + y = p) := by
  have : Fact p.Prime := ⟨prime⟩
  let r := pow p (y * y % p) ((p + 1) / 4)
  have small : r < p := by
    change pow p (y * y % p) ((p + 1) / 4) < p
    rw [pow_eq]
    exact Nat.mod_lt _ prime.pos
  have power : (r : ZMod p) = (y : ZMod p) ^ (2 * ((p + 1) / 4)) := by
    change ((pow p (y * y % p) ((p + 1) / 4) : Nat) : ZMod p) = _
    rw [pow_eq, ZMod.natCast_mod, Nat.cast_pow, ZMod.natCast_mod, Nat.cast_mul, ← pow_two, ← pow_mul]
  have square : (r : ZMod p) * r = y * y := by
    have exponent : 2 * ((p + 1) / 4) + 2 * ((p + 1) / 4) = p + 1 := by omega
    rw [power, ← pow_add, exponent, pow_succ, ZMod.pow_card]
  have root : mul p r r = y * y % p % p := by
    rw [Nat.mod_mod, mul, ← ZMod.natCast_eq_natCast_iff', Nat.cast_mul, Nat.cast_mul, square]
  refine ⟨r, if_pos root, small, ?_⟩
  rcases mul_self_eq_mul_self_iff.mp square with same | opposite
  · rw [ZMod.natCast_eq_natCast_iff', Nat.mod_eq_of_lt small, Nat.mod_eq_of_lt below] at same
    exact .inl same
  · have sum : ((r + y : Nat) : ZMod p) = 0 := by rw [Nat.cast_add, opposite, neg_add_cancel]
    obtain ⟨k, multiple⟩ := (ZMod.natCast_eq_zero_iff _ _).mp sum
    have few : k < 2 := Nat.lt_of_mul_lt_mul_left (a := p) (by omega)
    have either : k = 0 ∨ k = 1 := by omega
    rcases either with rfl | rfl
    · exact .inl (by omega)
    · exact .inr (by omega)

end Field

namespace Curve

theorem p_three_mod_four (type : KeyType) : (ofType type).p % 4 = 3 := by cases type <;> decide +kernel

theorem p_fits (type : KeyType) : (ofType type).p < Nat.pow 256 32 := by cases type <;> decide +kernel

theorem holds_iff {c : Curve} {q : Point} :
    c.holds q = true ↔ q.x < c.p ∧ q.y < c.p ∧ q.y * q.y % c.p = c.rightSide q.x := by
  rw [holds, Bool.and_eq_true, Bool.and_eq_true, decide_eq_true_eq, decide_eq_true_eq, beq_iff_eq, and_assoc, Field.mul]

end Curve

namespace Sec1

theorem lift_sound {c : Curve} {x parity : Nat} {q : Point} (lifted : lift? c x parity = some q) :
    c.holds q = true ∧ q.x = x ∧ q.y % 2 = parity := by
  rw [lift?] at lifted
  by_cases large : c.p ≤ x
  · rw [if_pos large] at lifted
    cases lifted
  · rw [if_neg large] at lifted
    cases root : Field.sqrt? c.p (c.rightSide x) with
    | none =>
        rw [root] at lifted
        cases lifted
    | some y =>
        rw [root] at lifted
        obtain ⟨⟨on, parity⟩, same⟩ := (Option.ite_none_right_eq_some).mp lifted
        cases same
        exact ⟨on, rfl, parity⟩

theorem lift_complete {type : KeyType} {q : Point} (on : (Curve.ofType type).holds q = true) :
    lift? (Curve.ofType type) q.x (q.y % 2) = some q := by
  have three := Curve.p_three_mod_four type
  obtain ⟨x, y, equation⟩ := Curve.holds_iff.mp on
  obtain ⟨r, root, small, either⟩ := Field.sqrt_of_square (Curve.p_prime type) three y
  rw [equation] at root
  -- The modulus is odd, so that the parity tells the root from its opposite.
  have chosen : (if r % 2 = q.y % 2 then r else (Curve.ofType type).p - r) = q.y := by
    rcases either with rfl | opposite
    · exact if_pos rfl
    · rw [if_neg (by omega)]
      omega
  rw [lift?, if_neg (Nat.not_le.mpr x), root]
  change (if (Curve.ofType type).holds ⟨q.x, _⟩ = true ∧ _ then _ else none) = some q
  rw [chosen]
  exact if_pos ⟨on, rfl⟩

theorem coordinate_length (n : Nat) : (coordinate n).length = 32 := Encoding.bigEndian_length 32 n

theorem coordinate_of_bytes {bytes : Bytes} (length : bytes.length = 32) : coordinate (Encoding.toNat bytes) = bytes :=
  Encoding.bigEndian_toNat length

theorem coordinate_to_nat {type : KeyType} {n : Nat} (below : n < (Curve.ofType type).p) :
    Encoding.toNat (coordinate n) = n :=
  Encoding.toNat_bigEndian 32 n (Nat.lt_trans below (Curve.p_fits type))

theorem decode_sound {c : Curve} {bytes : Bytes} {q : Point} (decoded : decode? c bytes = some q) :
    c.holds q = true ∧ (bytes = compressed q ∨ bytes = uncompressed q) := by
  cases bytes with
  | nil => cases decoded
  | cons tag rest =>
      rw [decode?] at decoded
      by_cases whole : tag = 4 ∧ rest.length = 64
      · rw [if_pos whole] at decoded
        obtain ⟨on, same⟩ := (Option.ite_none_right_eq_some).mp decoded
        cases same
        have front : (rest.take 32).length = 32 := by rw [List.length_take, whole.2]; rfl
        have back : (rest.drop 32).length = 32 := by rw [List.length_drop, whole.2]
        refine ⟨on, .inr ?_⟩
        rw [uncompressed, coordinate_of_bytes front, coordinate_of_bytes back, List.take_append_drop, whole.1]
      · rw [if_neg whole] at decoded
        by_cases even : tag = 2 ∧ rest.length = 32
        · rw [if_pos even] at decoded
          obtain ⟨on, x, parity⟩ := lift_sound decoded
          refine ⟨on, .inl ?_⟩
          rw [compressed, x, coordinate_of_bytes even.2, if_pos parity, even.1]
        · rw [if_neg even] at decoded
          obtain ⟨odd, lifted⟩ := (Option.ite_none_right_eq_some).mp decoded
          obtain ⟨on, x, parity⟩ := lift_sound lifted
          refine ⟨on, .inl ?_⟩
          rw [compressed, x, coordinate_of_bytes odd.2, if_neg (by omega), odd.1]

theorem decode_compressed {type : KeyType} {q : Point} (on : (Curve.ofType type).holds q = true) :
    decode? (Curve.ofType type) (compressed q) = some q := by
  have x := coordinate_to_nat (Curve.holds_iff.mp on).1
  have length := coordinate_length q.x
  have lifted := lift_complete on
  by_cases even : q.y % 2 = 0
  · rw [even] at lifted
    rw [compressed, if_pos even, decode?, if_neg (fun whole => absurd whole.1 (by decide)), if_pos ⟨rfl, length⟩, x]
    exact lifted
  · have odd : q.y % 2 = 1 := by omega
    rw [odd] at lifted
    rw [compressed, if_neg even, decode?, if_neg (fun whole => absurd whole.1 (by decide)),
      if_neg (fun tagged => absurd tagged.1 (by decide)), if_pos ⟨rfl, length⟩, x]
    exact lifted

theorem decode_uncompressed {type : KeyType} {q : Point} (on : (Curve.ofType type).holds q = true) :
    decode? (Curve.ofType type) (uncompressed q) = some q := by
  obtain ⟨below, under, _⟩ := Curve.holds_iff.mp on
  have front : (coordinate q.x ++ coordinate q.y).take 32 = coordinate q.x := List.take_left' (coordinate_length q.x)
  have back : (coordinate q.x ++ coordinate q.y).drop 32 = coordinate q.y := List.drop_left' (coordinate_length q.x)
  have whole : (4 : UInt8) = 4 ∧ (coordinate q.x ++ coordinate q.y).length = 64 := by
    rw [List.length_append, coordinate_length, coordinate_length]
    exact ⟨rfl, rfl⟩
  rw [uncompressed, decode?, if_pos whole, front, back, coordinate_to_nat below, coordinate_to_nat under]
  exact if_pos on

theorem decode_iff {type : KeyType} {bytes : Bytes} {q : Point} :
    decode? (Curve.ofType type) bytes = some q ↔
      (Curve.ofType type).holds q = true ∧ (bytes = compressed q ∨ bytes = uncompressed q) := by
  constructor
  · exact decode_sound
  · rintro ⟨on, rfl | rfl⟩
    · exact decode_compressed on
    · exact decode_uncompressed on

end Sec1
end EbsiDid
