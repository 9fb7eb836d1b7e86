import EbsiDid.Number.Binary64

set_option autoImplicit false

/-!
The shortest decimal that reads back as a given double, and its text. A value `m * 2 ^ q` owns the
numbers that round to it; the coarsest decimal grid with a point among them gives the digits.
-/
namespace EbsiDid.Binary64

/-- In quarters of `2 ^ q`: the numbers that round to `m * 2 ^ q`. The ends belong iff `m` is even. -/
structure Span where
  low : Nat
  high : Nat
  closed : Bool
deriving DecidableEq, Repr

def span (m : Nat) (q : Int) : Span where
  low := if m = hiddenBit ∧ q > -1074 then 4 * m - 1 else 4 * m - 2
  high := 4 * m + 2
  closed := m % 2 = 0

/-- The exponent of two of a quarter and the exponent of ten of a grid, as factors for either side. -/
structure Scale where
  quarters : Nat
  grid : Nat

def scale (q e : Int) : Scale where
  quarters := (powerOfTwo (q - 2)).1 * (powerOfTen e).2
  grid := (powerOfTen e).1 * (powerOfTwo (q - 2)).2

/-- Does the grid point `d` lie in the span? -/
def Span.holds (s : Span) (k : Scale) (d : Nat) : Bool :=
  let point := d * k.grid
  let low := s.low * k.quarters
  let high := s.high * k.quarters
  if s.closed then decide (low ≤ point ∧ point ≤ high) else decide (low < point ∧ point < high)

/-- The better of the two grid points beside the value. -/
def gridPoint? (m : Nat) (q e : Int) : Option Nat :=
  let k := scale q e
  let value := 4 * m * k.quarters
  let below := value / k.grid
  let s := span m q
  match s.holds k below, s.holds k (below + 1) with
  | true, true =>
      let twice := 2 * (value % k.grid)
      if twice < k.grid ∨ (twice = k.grid ∧ below % 2 = 0) then some below else some (below + 1)
  | true, false => some below
  | false, true => some (below + 1)
  | false, false => none

/-- Searches finer and finer grids, at most `steps` of them. -/
def searchGrid (m : Nat) (q : Int) : Nat → Int → Nat × Int
  | 0, e => (m, e)
  | steps + 1, e =>
      match gridPoint? m q e with
      | some d => (d, e)
      | none => searchGrid m q steps (e - 1)

/-- A power of ten above `m * 2 ^ q`. -/
def decimalCeiling (m : Nat) (q : Int) : Int :=
  ((m.log2 : Int) + q + 1) * 30103 / 100000 + 2

/-- Digits and exponent of ten of the shortest decimal. -/
def shortest (m : Nat) (q : Int) : Nat × Int := searchGrid m q 25 (decimalCeiling m q)

def zeros (n : Nat) : List Char := List.replicate n '0'

/-- At least two digits, after the sign. -/
def exponentText (e : Int) : List Char :=
  let ds := Number.digitsOf e.natAbs
  (if e < 0 then '-' else '+') :: (if ds.length < 2 then '0' :: ds else ds)

/-- Digits with the point after the first `point` of them: positional from 1e-4 on and below 1e16,
with an exponent elsewhere. -/
def placed (ds : List Char) (point : Int) : List Char :=
  if -4 < point ∧ point ≤ 16 then
    if point ≤ 0 then '0' :: '.' :: (zeros (-point).toNat ++ ds)
    else if point.toNat < ds.length then ds.take point.toNat ++ '.' :: ds.drop point.toNat
    else ds ++ zeros (point.toNat - ds.length) ++ ['.', '0']
  else
    match ds with
    | [] => []
    | d :: more =>
        (if more.isEmpty then [d] else d :: '.' :: more) ++ 'e' :: exponentText (point - 1)

def magnitudeText (m : Nat) (q : Int) : List Char :=
  if m = 0 then ['0', '.', '0']
  else
    let (d, e) := shortest m q
    let ds := Number.digitsOf d
    placed ds (ds.length + e)

/-- The words for what is not a finite number. -/
structure Words where
  nan : String
  infinity : String

def text (words : Words) (x : Binary64) : String :=
  match x.reading with
  | .nan => words.nan
  | .infinite negative => if negative then "-" ++ words.infinity else words.infinity
  | .finite negative m q =>
      String.ofList (if negative then '-' :: magnitudeText m q else magnitudeText m q)

end EbsiDid.Binary64
