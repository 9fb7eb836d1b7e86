import EbsiDid.Curve.Basic
import Mathlib.Data.List.Prime
import Mathlib.NumberTheory.LucasPrimality
import Mathlib.Tactic.NormNum.Prime

set_option autoImplicit false

/-!
The moduli of both curves are primes. Lucas's test settles a prime once the prime factors of its predecessor are
known, so that each modulus has a chain of tests that starts with small primes.
-/
namespace EbsiDid

namespace Field

theorem pow_eq (p a e : Nat) : pow p a e = a ^ e % p := by
  induction e using Nat.strongRecOn generalizing a with
  | _ e ih =>
      rw [pow]
      by_cases zero : e = 0
      · rw [if_pos zero, zero, Nat.pow_zero]
      · have half : pow p (mul p a a) (e / 2) = a ^ (2 * (e / 2)) % p := by
          rw [ih (e / 2) (by omega), mul, ← Nat.pow_mod, Nat.pow_mul, Nat.pow_two]
        simp only [if_neg zero, half]
        by_cases odd : e % 2 = 1
        · have parts : e = 2 * (e / 2) + 1 := by omega
          rw [if_pos odd, mul, Nat.mul_mod_mod, ← Nat.pow_add_one', ← parts]
        · have parts : e = 2 * (e / 2) := by omega
          rw [if_neg odd, ← parts]

end Field

-- A number with a base of full order, and the prime factors of the number before it, each as often as it divides.
structure LucasTest where
  p : Nat
  base : Nat
  factors : List Nat

namespace LucasTest

def passes (t : LucasTest) (known : List Nat) : Bool :=
  decide (1 < t.p) && t.factors.prod == t.p - 1 && t.factors.all (fun q => decide (q ∈ known))
    && Field.pow t.p t.base (t.p - 1) == 1 && t.factors.all fun q => Field.pow t.p t.base ((t.p - 1) / q) != 1

theorem power_is_one {p : Nat} (large : 1 < p) (a e : Nat) : (a : ZMod p) ^ e = 1 ↔ Field.pow p a e = 1 := by
  rw [Field.pow_eq, ← Nat.cast_pow, ← Nat.cast_one, ZMod.natCast_eq_natCast_iff', Nat.mod_eq_of_lt large]

theorem passes_prime {t : LucasTest} {known : List Nat} (primes : ∀ q ∈ known, q.Prime) (passed : t.passes known = true) :
    t.p.Prime := by
  simp only [passes, Bool.and_eq_true, decide_eq_true_eq, beq_iff_eq, bne_iff_ne, List.all_eq_true] at passed
  obtain ⟨⟨⟨⟨large, product⟩, among⟩, full⟩, proper⟩ := passed
  refine lucas_primality t.p (t.base : ZMod t.p) ((power_is_one large _ _).mpr full) ?_
  intro q prime divides
  rw [← product] at divides
  obtain ⟨r, factor, inside⟩ := (Prime.dvd_prod_iff prime.prime).mp divides
  have same : q = r := (Nat.prime_dvd_prime_iff_eq prime (primes r (among r factor))).mp inside
  rw [same]
  exact mt (power_is_one large _ _).mp (proper r factor)

-- Each test may use the numbers that were tested before it.
def allPass : List LucasTest → List Nat → Bool
  | [], _ => true
  | t :: rest, known => t.passes known && allPass rest (t.p :: known)

theorem all_pass_prime {tests : List LucasTest} {known : List Nat} (primes : ∀ q ∈ known, q.Prime)
    (passed : allPass tests known = true) : ∀ t ∈ tests, t.p.Prime := by
  induction tests generalizing known with
  | nil => exact nofun
  | cons first rest ih =>
      rw [allPass, Bool.and_eq_true] at passed
      have prime := passes_prime primes passed.1
      have more : ∀ q ∈ first.p :: known, q.Prime := by
        intro q member
        rcases List.mem_cons.mp member with rfl | before
        · exact prime
        · exact primes q before
      intro t member
      rcases List.mem_cons.mp member with rfl | later
      · exact prime
      · exact ih more passed.2 t later

end LucasTest

namespace Curve

def smallPrimes : List Nat :=
  [2, 3, 5, 7, 11, 13, 17, 23, 29, 31, 53, 107, 173, 197, 257, 313, 641, 661, 971, 1373, 1531, 1627, 2411, 2621,
    2657, 3677, 3769, 4423, 5323, 7723, 13441, 17449, 18169, 20113, 24809, 41201, 65537, 78283, 96557]

theorem small_primes : ∀ q ∈ smallPrimes, q.Prime := by norm_num [smallPrimes]

def secp256k1Tests : List LucasTest :=
  [⟨13331831, 13, [2, 5, 971, 1373]⟩,
   ⟨1206781, 10, [2, 2, 3, 5, 20113]⟩,
   ⟨7240687, 3, [2, 3, 1206781]⟩,
   ⟨107590001, 3, [2, 2, 2, 2, 5, 5, 5, 5, 7, 29, 53]⟩,
   ⟨173378833005251801, 6, [2, 2, 2, 5, 5, 2621, 24809, 13331831]⟩,
   ⟨22149492674086928081353, 5, [2, 2, 2, 3, 5323, 173378833005251801]⟩,
   ⟨132896956044521568488119, 6, [2, 3, 22149492674086928081353]⟩,
   ⟨255515944373312847190720520512484175977, 3,
    [2, 2, 2, 7, 7, 11, 1627, 2657, 4423, 41201, 96557, 7240687, 107590001]⟩,
   ⟨205115282021455665897114700593932402728804164701536103180137503955397371, 10,
    [2, 3, 5, 29, 29, 31, 7723, 132896956044521568488119, 255515944373312847190720520512484175977]⟩,
   ⟨secp256k1.p, 3, [2, 3, 7, 13441, 205115282021455665897114700593932402728804164701536103180137503955397371]⟩]

def secp256r1Tests : List LucasTest :=
  [⟨490463, 14, [2, 7, 53, 661]⟩,
   ⟨704251, 2, [2, 3, 3, 5, 5, 5, 313]⟩,
   ⟨6700417, 5, [2, 2, 2, 2, 2, 2, 2, 3, 17449]⟩,
   ⟨204061199, 11, [2, 11, 23, 107, 3769]⟩,
   ⟨34282281433, 17, [2, 2, 2, 3, 7, 204061199]⟩,
   ⟨66417393611, 6, [2, 5, 53, 173, 197, 3677]⟩,
   ⟨11290956913871, 13, [2, 5, 17, 66417393611]⟩,
   ⟨46076956964474543, 5, [2, 23, 18169, 78283, 704251]⟩,
   ⟨774023187263532362759620327192479577272145303, 3, [2, 3, 3, 2411, 34282281433, 11290956913871, 46076956964474543]⟩,
   ⟨835945042244614951780389953367877943453916927241, 11,
    [2, 2, 2, 3, 3, 3, 5, 774023187263532362759620327192479577272145303]⟩,
   ⟨secp256r1.p, 6, [2, 3, 5, 5, 17, 257, 641, 1531, 65537, 490463, 6700417,
    835945042244614951780389953367877943453916927241]⟩]

theorem p_prime (type : KeyType) : (ofType type).p.Prime := by
  cases type with
  | secp256k1 =>
      have passed : LucasTest.allPass secp256k1Tests smallPrimes = true := by decide +kernel
      exact LucasTest.all_pass_prime small_primes passed _ (List.mem_of_getLast? rfl)
  | secp256r1 =>
      have passed : LucasTest.allPass secp256r1Tests smallPrimes = true := by decide +kernel
      exact LucasTest.all_pass_prime small_primes passed _ (List.mem_of_getLast? rfl)

end Curve
end EbsiDid
