import EbsiDid.Encoding.Utf8

set_option autoImplicit false

/-!
Keccak-256 with the first padding, as Ethereum uses it: 25 lanes of 64 bits, 17 of which take in a
block of the message, and 24 rounds of five steps.
-/
namespace EbsiDid.Keccak256

abbrev Lanes := Array UInt64

def rate : Nat := 136

def roundConstants : List UInt64 :=
  [0x0000000000000001, 0x0000000000008082, 0x800000000000808a, 0x8000000080008000,
   0x000000000000808b, 0x0000000080000001, 0x8000000080008081, 0x8000000000008009,
   0x000000000000008a, 0x0000000000000088, 0x0000000080008009, 0x000000008000000a,
   0x000000008000808b, 0x800000000000008b, 0x8000000000008089, 0x8000000000008003,
   0x8000000000008002, 0x8000000000000080, 0x000000000000800a, 0x800000008000000a,
   0x8000000080008081, 0x8000000000008080, 0x0000000080000001, 0x8000000080008008]

/-- How far the lane at `x + 5 * y` is rotated. -/
def offsets : Array UInt64 :=
  #[0, 1, 62, 28, 27, 36, 44, 6, 55, 20, 3, 10, 43, 25, 39, 41, 45, 15, 21, 8, 18, 2, 61, 56, 14]

def lane (s : Lanes) (x y : Nat) : UInt64 := s.getD (x % 5 + 5 * (y % 5)) 0

def rotate (w n : UInt64) : UInt64 := if n = 0 then w else (w <<< n) ||| (w >>> (64 - n))

/-- The lanes of a function of column and row. -/
def build (f : Nat → Nat → UInt64) : Lanes :=
  ((List.range 25).map fun i => f (i % 5) (i / 5)).toArray

def column (s : Lanes) (x : Nat) : UInt64 :=
  lane s x 0 ^^^ lane s x 1 ^^^ lane s x 2 ^^^ lane s x 3 ^^^ lane s x 4

def theta (s : Lanes) : Lanes :=
  let parity := ((List.range 5).map (column s)).toArray
  let effect := ((List.range 5).map fun x =>
    parity.getD ((x + 4) % 5) 0 ^^^ rotate (parity.getD ((x + 1) % 5) 0) 1).toArray
  build fun x y => lane s x y ^^^ effect.getD x 0

/-- Rotates every lane and moves it to its new place. -/
def rhoPi (s : Lanes) : Lanes :=
  build fun x y =>
    let fromX := x + 3 * y
    rotate (lane s fromX x) (lane offsets fromX x)

def chi (s : Lanes) : Lanes :=
  build fun x y => lane s x y ^^^ (~~~lane s (x + 1) y &&& lane s (x + 2) y)

def iota (constant : UInt64) (s : Lanes) : Lanes := s.setIfInBounds 0 (s.getD 0 0 ^^^ constant)

def round (s : Lanes) (constant : UInt64) : Lanes := iota constant (chi (rhoPi (theta s)))

def permute (s : Lanes) : Lanes := roundConstants.foldl round s

/-- Eight bytes as a word, the least significant one first. -/
def littleEndian (bytes : Bytes) : UInt64 := UInt64.ofNat (Encoding.toNat bytes.reverse)

def wordBytes (w : UInt64) : Bytes := (Encoding.bigEndian 8 w.toNat).reverse

def chunks (size : Nat) : Nat → Bytes → List Bytes
  | 0, _ => []
  | count + 1, bytes => bytes.take size :: chunks size count (bytes.drop size)

/-- A one bit right after the message and one at the very end. -/
def padded (message : Bytes) : Bytes :=
  let missing := rate - message.length % rate
  if missing = 1 then message ++ [0x81]
  else message ++ 0x01 :: (List.replicate (missing - 2) 0 ++ [0x80])

def absorb (s : Lanes) (block : Bytes) : Lanes :=
  let words := ((chunks 8 17 block).map littleEndian).toArray
  permute (build fun x y => lane s x y ^^^ words.getD (x + 5 * y) 0)

def digest (message : Bytes) : Bytes :=
  let bytes := padded message
  let final := (chunks rate (bytes.length / rate) bytes).foldl absorb (build fun _ _ => 0)
  ((List.range 4).map fun i => final.getD i 0).flatMap wordBytes

end EbsiDid.Keccak256
