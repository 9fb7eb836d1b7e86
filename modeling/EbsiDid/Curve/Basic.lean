import EbsiDid.Curve.Field
import EbsiDid.Key.Type

set_option autoImplicit false

/-!
The curves y² = x³ + a x + b of the two key types, their points, and multiples of points.
-/
namespace EbsiDid

structure Curve where
  p : Nat
  a : Nat
  b : Nat
  order : Nat
  gx : Nat
  gy : Nat
deriving DecidableEq, Repr

structure Point where
  x : Nat
  y : Nat
deriving DecidableEq, Repr, Inhabited

namespace Curve

def secp256k1 : Curve where
  p := 0xfffffffffffffffffffffffffffffffffffffffffffffffffffffffefffffc2f
  a := 0
  b := 7
  order := 0xfffffffffffffffffffffffffffffffebaaedce6af48a03bbfd25e8cd0364141
  gx := 0x79be667ef9dcbbac55a06295ce870b07029bfcdb2dce28d959f2815b16f81798
  gy := 0x483ada7726a3c4655da4fbfc0e1108a8fd17b448a68554199c47d08ffb10d4b8

def secp256r1 : Curve where
  p := 0xffffffff00000001000000000000000000000000ffffffffffffffffffffffff
  a := 0xffffffff00000001000000000000000000000000fffffffffffffffffffffffc
  b := 0x5ac635d8aa3a93e7b3ebbd55769886bc651d06b0cc53b0f63bce3c3e27d2604b
  order := 0xffffffff00000000ffffffffffffffffbce6faada7179e84f3b9cac2fc632551
  gx := 0x6b17d1f2e12c4247f8bce6e563a440f277037d812deb33a0f4a13945d898c296
  gy := 0x4fe342e2fe1a7f9b8ee7eb4a7c0f9e162bce33576b315ececbb6406837bf51f5

def ofType : KeyType → Curve
  | .secp256k1 => secp256k1
  | .secp256r1 => secp256r1

/-- x³ + a x + b. -/
def rightSide (c : Curve) (x : Nat) : Nat :=
  Field.add c.p (Field.mul c.p (Field.add c.p (Field.mul c.p x x) c.a) x) c.b

/-- Coordinates of a point of the curve, both below `p`. -/
def holds (c : Curve) (q : Point) : Bool :=
  decide (q.x < c.p) && decide (q.y < c.p) && Field.mul c.p q.y q.y == c.rightSide q.x

/-- The point `(x / z², y / z³)`, or the neutral one where `z` is zero. -/
structure Jacobian where
  x : Nat
  y : Nat
  z : Nat

def neutral : Jacobian := ⟨1, 1, 0⟩

def double (c : Curve) (q : Jacobian) : Jacobian :=
  let yy := Field.mul c.p q.y q.y
  let s := Field.mul c.p 4 (Field.mul c.p q.x yy)
  let zz := Field.mul c.p q.z q.z
  let m := Field.add c.p (Field.mul c.p 3 (Field.mul c.p q.x q.x)) (Field.mul c.p c.a (Field.mul c.p zz zz))
  let x := Field.sub c.p (Field.mul c.p m m) (Field.mul c.p 2 s)
  let y := Field.sub c.p (Field.mul c.p m (Field.sub c.p s x)) (Field.mul c.p 8 (Field.mul c.p yy yy))
  ⟨x, y, Field.mul c.p 2 (Field.mul c.p q.y q.z)⟩

def add (c : Curve) (q r : Jacobian) : Jacobian :=
  if q.z = 0 then r
  else if r.z = 0 then q
  else
    let qzz := Field.mul c.p q.z q.z
    let rzz := Field.mul c.p r.z r.z
    let u1 := Field.mul c.p q.x rzz
    let u2 := Field.mul c.p r.x qzz
    let s1 := Field.mul c.p q.y (Field.mul c.p rzz r.z)
    let s2 := Field.mul c.p r.y (Field.mul c.p qzz q.z)
    if u1 = u2 then
      if s1 = s2 then c.double q else neutral
    else
      let h := Field.sub c.p u2 u1
      let t := Field.sub c.p s2 s1
      let hh := Field.mul c.p h h
      let hhh := Field.mul c.p h hh
      let v := Field.mul c.p u1 hh
      let x := Field.sub c.p (Field.sub c.p (Field.mul c.p t t) hhh) (Field.mul c.p 2 v)
      let y := Field.sub c.p (Field.mul c.p t (Field.sub c.p v x)) (Field.mul c.p s1 hhh)
      ⟨x, y, Field.mul c.p h (Field.mul c.p q.z r.z)⟩

/-- The `k`-th multiple, by doubling. -/
def multiple (c : Curve) (q : Jacobian) (k : Nat) : Jacobian :=
  if k = 0 then neutral
  else
    let half := c.multiple q (k / 2)
    let twice := c.double half
    if k % 2 = 1 then c.add twice q else twice
termination_by k
decreasing_by omega

def affine? (c : Curve) (q : Jacobian) : Option Point :=
  if q.z = 0 then none
  else
    let i := Field.inverse c.p q.z
    let ii := Field.mul c.p i i
    some ⟨Field.mul c.p q.x ii, Field.mul c.p q.y (Field.mul c.p ii i)⟩

/-- The `k`-th multiple of the base point. -/
def ofScalar? (c : Curve) (k : Nat) : Option Point := c.affine? (c.multiple ⟨c.gx, c.gy, 1⟩ k)

/-- Numbers that can be private keys. -/
def isScalar (c : Curve) (k : Int) : Bool := decide (0 < k) && decide (k < c.order)

end Curve
end EbsiDid
