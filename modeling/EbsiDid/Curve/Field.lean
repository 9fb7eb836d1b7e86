set_option autoImplicit false

/-!
Arithmetic of residues modulo a prime, on natural numbers below it.
-/
namespace EbsiDid.Field

def add (p a b : Nat) : Nat := (a + b) % p
def sub (p a b : Nat) : Nat := (a + (p - b % p)) % p
def mul (p a b : Nat) : Nat := a * b % p

def pow (p a e : Nat) : Nat :=
  if e = 0 then 1 % p
  else
    let half := pow p (mul p a a) (e / 2)
    if e % 2 = 1 then mul p a half else half
termination_by e
decreasing_by omega

/-- The inverse of a residue that is not zero, for a prime `p`. -/
def inverse (p a : Nat) : Nat := pow p a (p - 2)

/-- A square root, for a prime `p` that is three modulo four. -/
def sqrt? (p a : Nat) : Option Nat :=
  let r := pow p a ((p + 1) / 4)
  if mul p r r = a % p then some r else none

end EbsiDid.Field
