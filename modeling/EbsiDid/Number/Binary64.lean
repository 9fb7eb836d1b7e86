import EbsiDid.Number.Integer

set_option autoImplicit false

/-!
IEEE 754 double precision numbers as 64-bit words, with exact conversions from ratios of natural
numbers and from integers. No arithmetic of the machine is used.
-/
namespace EbsiDid

structure Binary64 where
  bits : UInt64
deriving DecidableEq, Repr, Inhabited

namespace Binary64

/-- What a word stands for: `finite negative m q` is `m * 2 ^ q` with a sign. -/
inductive Reading where
  | nan
  | infinite (negative : Bool)
  | finite (negative : Bool) (m : Nat) (q : Int)
deriving DecidableEq, Repr

def signBit : Nat := Nat.pow 2 63

/-- The bit in front of the fraction, which is not stored. -/
def hiddenBit : Nat := Nat.pow 2 52

def fraction (x : Binary64) : Nat := x.bits.toNat % hiddenBit
def exponent (x : Binary64) : Nat := x.bits.toNat / hiddenBit % 2048
def negative (x : Binary64) : Bool := decide (signBit ≤ x.bits.toNat)

def reading (x : Binary64) : Reading :=
  if x.exponent = 2047 then
    if x.fraction = 0 then .infinite x.negative else .nan
  else if x.exponent = 0 then .finite x.negative x.fraction (-1074)
  else .finite x.negative (hiddenBit + x.fraction) ((x.exponent : Int) - 1075)

def withSign (negative : Bool) (magnitude : Nat) : Binary64 :=
  ⟨UInt64.ofNat (if negative then signBit + magnitude else magnitude)⟩

/-- The word of `m * 2 ^ q`, for `q` at least -1074 and `m` of 53 bits, or fewer at -1074. Carries
of a mantissa that was rounded up go into the exponent. -/
def assemble (m : Nat) (q : Int) : Nat :=
  if m < hiddenBit then m else (q + 1075).toNat * hiddenBit + (m - hiddenBit)

def infinityBits : Nat := 2047 * hiddenBit

def infinity (negative : Bool) : Binary64 := withSign negative infinityBits
def nan : Binary64 := ⟨0x7ff8000000000000⟩
def zeroOf (negative : Bool) : Binary64 := withSign negative 0

/-- `num / den` to the nearest natural number, a half to the even one. -/
def roundHalfEven (num den : Nat) : Nat :=
  let whole := num / den
  let twice := 2 * (num % den)
  if twice < den then whole
  else if twice > den then whole + 1
  else whole + whole % 2

/-- `2 ^ k` as a ratio. -/
def powerOfTwo (k : Int) : Nat × Nat := (Nat.pow 2 k.toNat, Nat.pow 2 (-k).toNat)

/-- `10 ^ k` as a ratio. -/
def powerOfTen (k : Int) : Nat × Nat := (Nat.pow 10 k.toNat, Nat.pow 10 (-k).toNat)

/-- The greatest `k` with `2 ^ k ≤ num / den`, for positive arguments. -/
def floorLog2 (num den : Nat) : Int :=
  let k := (num.log2 : Int) - den.log2
  let (up, down) := powerOfTwo k
  if den * up ≤ num * down then k else k - 1

/-- The nearest double of `num / den`. -/
def ofRatio (negative : Bool) (num den : Nat) : Binary64 :=
  if num = 0 then zeroOf negative
  else
    let q := max (floorLog2 num den - 52) (-1074)
    let (up, down) := powerOfTwo q
    let word := assemble (roundHalfEven (num * down) (den * up)) q
    if infinityBits ≤ word then infinity negative else withSign negative word

/-- The nearest double of `digits * 10 ^ exponent`. -/
def ofDecimal (negative : Bool) (digits : Nat) (exponent : Int) : Binary64 :=
  let magnitude := ((Number.digitsOf digits).length : Int) + exponent
  if digits = 0 ∨ magnitude < -400 then zeroOf negative
  else if magnitude > 400 then infinity negative
  else
    let (up, down) := powerOfTen exponent
    ofRatio negative (digits * up) down

/-- The nearest double of an integer, if it is in range. -/
def ofInt? (n : Int) : Option Binary64 :=
  let x := ofRatio (n < 0) n.natAbs 1
  match x.reading with
  | .infinite _ => none
  | _ => some x

def isZero (x : Binary64) : Bool :=
  match x.reading with
  | .finite _ m _ => m == 0
  | _ => false

/-- The integer part of a finite double. -/
def truncate (negative : Bool) (m : Nat) (q : Int) : Int :=
  let (up, down) := powerOfTwo q
  Number.negateIf negative (m * up / down)

/-- The integer that a double equals. -/
def toInt? (x : Binary64) : Option Int :=
  match x.reading with
  | .finite negative m q =>
      let (up, down) := powerOfTwo q
      if m * up % down = 0 then some (Number.negateIf negative (m * up / down)) else none
  | _ => none

def isNan (x : Binary64) : Bool :=
  match x.reading with
  | .nan => true
  | _ => false

/-- Sameness: the zeros are the same number, and a NaN is the same as that word alone. -/
def same (x y : Binary64) : Bool :=
  match x.reading, y.reading with
  | .finite _ 0 _, .finite _ 0 _ => true
  | _, _ => x == y

/-- The greater of two powers of two as a multiple of the lesser. -/
def ratioOfPowers (q low : Int) : Nat := Nat.pow 2 (q - low).toNat

/-- `x < y` by what they stand for. A NaN is less than nothing, and nothing is less than it. -/
def Reading.less (x y : Reading) : Bool :=
  match x, y with
  | .nan, _ => false
  | _, .nan => false
  | .infinite s, .infinite t => s && !t
  | .infinite s, .finite _ _ _ => s
  | .finite _ _ _, .infinite t => !t
  | .finite s m q, .finite t n r =>
      let low := min q r
      Number.negateIf s (m * ratioOfPowers q low) < Number.negateIf t (n * ratioOfPowers r low)

/-- The nearest double of `n * 2 ^ q`. -/
def ofScaled (n q : Int) : Binary64 :=
  let (up, down) := powerOfTwo q
  ofRatio (n < 0) (n.natAbs * up) down

/-- The sum with an integer. -/
def plus (x : Binary64) (k : Int) : Binary64 :=
  match x.reading with
  | .finite s m q =>
      let (up, down) := powerOfTwo q
      ofScaled (Number.negateIf s (m * up) + k * down) (min q 0)
  | _ => x

/-- The remainder of a division by two, which is not negative. -/
def moduloTwo (x : Binary64) : Binary64 :=
  match x.reading with
  | .finite s m q =>
      let (up, down) := powerOfTwo q
      ofScaled (Number.negateIf s (m * up) % (2 * down)) (min q 0)
  | _ => nan

end Binary64
end EbsiDid
