import EbsiDid.Curve.Basic
import EbsiDid.Hash.Hmac

set_option autoImplicit false

/-!
Signatures over a digest, with the secret number of a signature drawn from the key and the digest
themselves. The second half of a signature is the low one of its two forms.
-/
namespace EbsiDid

structure Signature where
  r : Nat
  s : Nat
  recovery : Nat
deriving DecidableEq, Repr, Inhabited

namespace Ecdsa

/-- The secret number that belongs to a key and a digest of 32 bytes each. -/
def nonce (key digest : Bytes) : Nat :=
  let v0 : Bytes := List.replicate 32 1
  let k1 := Hmac.sha256 (List.replicate 32 0) (v0 ++ 0 :: (key ++ digest))
  let v1 := Hmac.sha256 k1 v0
  let k2 := Hmac.sha256 k1 (v1 ++ 1 :: (key ++ digest))
  let v2 := Hmac.sha256 k2 v1
  Encoding.toNat (Hmac.sha256 k2 v2)

/-- Signs with the secret number `k`. The recovery id is the parity of the point behind `r`, turned when `s` was. It is one
bit, so that a point whose first coordinate went past the order makes no signature. -/
def signWith (c : Curve) (key digest k : Nat) : Option Signature := do
  let q ← c.ofScalar? k
  let s := Field.mul c.order (Field.inverse c.order k) (digest + q.x * key)
  let high := decide (c.order / 2 < s)
  if q.x = 0 ∨ c.order ≤ q.x ∨ s = 0 then none
  else return ⟨q.x, if high then c.order - s else s, (q.y + if high then 1 else 0) % 2⟩

def sign (c : Curve) (key digest : Bytes) : Option Signature :=
  signWith c (Encoding.toNat key) (Encoding.toNat digest) (nonce key digest)

end Ecdsa
end EbsiDid
