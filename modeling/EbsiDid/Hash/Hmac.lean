import EbsiDid.Hash.Sha2

set_option autoImplicit false

/-!
Keyed hashing with SHA-256.
-/
namespace EbsiDid.Hmac

def blockSize : Nat := 64

/-- A key as one block: hashed if it is longer, filled with zeros if it is shorter. -/
def blockKey (key : Bytes) : Bytes :=
  let short := if key.length > blockSize then Sha256.digest key else key
  short ++ List.replicate (blockSize - short.length) 0

def sha256 (key message : Bytes) : Bytes :=
  let block := blockKey key
  Sha256.digest (block.map (· ^^^ 0x5c) ++ Sha256.digest (block.map (· ^^^ 0x36) ++ message))

end EbsiDid.Hmac
