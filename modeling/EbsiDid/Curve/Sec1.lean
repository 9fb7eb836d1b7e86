import EbsiDid.Curve.Basic
import EbsiDid.Encoding.Utf8

set_option autoImplicit false

/-!
Points as bytes. The first byte is 4 before both coordinates, and 2 or 3 before the first coordinate
alone, by the parity of the second. A coordinate takes 32 bytes.
-/
namespace EbsiDid.Sec1

def coordinate (n : Nat) : Bytes := Encoding.bigEndian 32 n

def uncompressed (q : Point) : Bytes := 4 :: (coordinate q.x ++ coordinate q.y)

def compressed (q : Point) : Bytes := (if q.y % 2 = 0 then 2 else 3) :: coordinate q.x

/-- The point over `x` whose second coordinate has the parity. -/
def lift? (c : Curve) (x parity : Nat) : Option Point := do
  if c.p ≤ x then none
  let y ← Field.sqrt? c.p (c.rightSide x)
  let q : Point := ⟨x, if y % 2 = parity then y else c.p - y⟩
  if c.holds q ∧ q.y % 2 = parity then return q else none

def decode? (c : Curve) (bytes : Bytes) : Option Point :=
  match bytes with
  | [] => none
  | tag :: rest =>
      if tag = 4 ∧ rest.length = 64 then
        let q : Point := ⟨Encoding.toNat (rest.take 32), Encoding.toNat (rest.drop 32)⟩
        if c.holds q then some q else none
      else if tag = 2 ∧ rest.length = 32 then lift? c (Encoding.toNat rest) 0
      else if tag = 3 ∧ rest.length = 32 then lift? c (Encoding.toNat rest) 1
      else none

theorem uncompressed_length (q : Point) : (uncompressed q).length = 65 := by
  simp [uncompressed, coordinate, Encoding.bigEndian_length]

theorem compressed_length (q : Point) : (compressed q).length = 33 := by
  simp [compressed, coordinate, Encoding.bigEndian_length]

end EbsiDid.Sec1
