import EbsiDid.Encoding.Base64
import EbsiDid.Hash.Sha2
import EbsiDid.Json.Writer
import EbsiDid.Key.PublicKey

set_option autoImplicit false

/-!
JSON Web Keys of points, and the thumbprint of any JSON Web Key: the digest of the members that its
type requires, in lexicographic order and in compact JSON.
-/
namespace EbsiDid

/-- The key of a point. -/
structure Jwk where
  alg : String
  use : Value
  crv : String
  x : String
  y : String

namespace Jwk

def coordinateText (n : Nat) : String := Base64.encode Base64.url (Sec1.coordinate n)

def ofPoint (type : KeyType) (q : Point) (use : Value) : Jwk where
  alg := type.alg
  use := use
  crv := type.crv
  x := coordinateText q.x
  y := coordinateText q.y

/-- The members in order. The use is left out where it is empty. -/
def record (key : Jwk) : Record :=
  ("alg", .text key.alg) :: ((if key.use.truthy then [("use", key.use)] else [])
    ++ [("kty", .text "EC"), ("crv", .text key.crv), ("x", .text key.x), ("y", .text key.y)])

def ofPublicKey (key type use : Value) : Except Error Jwk := do
  let t ← KeyType.ofValue type
  let q ← PublicKey.load key t
  return ofPoint t q use

/-- The members that a thumbprint takes, in lexicographic order. -/
def requiredMembers? : String → Option (List String)
  | "EC" => some ["crv", "kty", "x", "y"]
  | "OKP" => some ["crv", "kty", "x"]
  | "RSA" => some ["e", "kty", "n"]
  | "oct" => some ["k", "kty"]
  | _ => none

inductive Digest where
  | sha256
  | sha512
deriving DecidableEq, Repr

def Digest.apply : Digest → Bytes → Bytes
  | .sha256 => Sha256.digest
  | .sha512 => Sha512.digest

def Digest.ofValue (v : Value) : Except Error Digest :=
  match v with
  | .text "sha256" => .ok .sha256
  | .text "sha512" => .ok .sha512
  | _ => if v.hashable then .error (.unsupportedDigest v.display) else .error .wrongType

def membersOf (jwk : Record) : Except Error (List String) :=
  match (jwk.get "kty").text?.bind requiredMembers? with
  | some members => .ok members
  | none => .error .unsupportedJwkType

/-- The named members of a key. Each has to be a text that is not empty. -/
def components (jwk : Record) : List String → Except Error (List (String × String))
  | [] => .ok []
  | member :: rest =>
      match jwk.get member with
      | .text s =>
          if s = "" then .error (.missingClaim member)
          else do
            let more ← components jwk rest
            return (member, s) :: more
      | _ => .error (.missingClaim member)

/-- The text that is hashed. -/
def canonicalText (parts : List (String × String)) : String :=
  Json.write Json.compact (.record (parts.map fun part => (part.1, .text part.2)))

def thumbprintOf (jwk : Record) (digest : Value) : Except Error String := do
  let members ← membersOf jwk
  let algorithm ← Digest.ofValue digest
  let parts ← components jwk members
  match Encoding.utf8? (canonicalText parts) with
  | some bytes => return Base64.encode Base64.url (algorithm.apply bytes)
  | none => .error (.foreign .unencodable)

def thumbprint (jwk digest : Value) : Except Error String :=
  match jwk with
  | .record fields => thumbprintOf fields digest
  | _ => .error .missingAttribute

def defaultDigest : Value := .text "sha256"

/-- The thumbprint of a public key. -/
def thumbprintOfKey (key type digest : Value) : Except Error String := do
  let jwk ← ofPublicKey key type .null
  thumbprintOf jwk.record digest

end Jwk
end EbsiDid
