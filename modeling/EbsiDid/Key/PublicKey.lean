import EbsiDid.Curve.Sec1
import EbsiDid.Encoding.Hex
import EbsiDid.Error.Basic
import EbsiDid.Hash.Keccak

set_option autoImplicit false

/-!
Public keys in texts. A text may spell a point in compressed form, in uncompressed form or as its two
coordinates; all that is computed from a public key is computed from the point.
-/
namespace EbsiDid

namespace KeyType

/-- The key type that a value names. -/
def ofValue (v : Value) : Except Error KeyType :=
  match v with
  | .text s =>
      match ofName? s with
      | some t => .ok t
      | none => .error (.unsupportedKeyType s)
  | _ => .error (.unsupportedKeyType v.display)

end KeyType

namespace PublicKey

/-- The text of a public key. What is empty counts as the empty text. -/
def textOf (v : Value) : Except Error String :=
  match v with
  | .text s => .ok s
  | _ => if v.truthy then .error .missingAttribute else .ok ""

/-- Two coordinates without a tag get the tag of the uncompressed form. -/
def tagged (raw : Bytes) : Bytes := if raw.length = 64 then 4 :: raw else raw

def ofText (text : String) (type : KeyType) : Except Error Point :=
  match Hex.decode (Hex.stripMark text) with
  | none => .error .publicKeyNotHex
  | some raw =>
      match Sec1.decode? (Curve.ofType type) (tagged raw) with
      | some q => .ok q
      | none => .error (.publicKeyInvalid type (tagged raw).length)

def load (key : Value) (type : KeyType) : Except Error Point := do
  let text ← textOf key
  ofText text type

def uncompressed (key : Value) (type : KeyType) : Except Error Bytes := do
  let q ← load key type
  return Sec1.uncompressed q

end PublicKey

namespace Address

/-- The last twenty bytes of the hash of both coordinates. -/
def ofPoint (q : Point) : Bytes :=
  (Keccak256.digest (Sec1.coordinate q.x ++ Sec1.coordinate q.y)).drop 12

/-- A letter is raised where the hash of the digits has a high digit. -/
def raise (c digit : Char) : Char :=
  if (Hex.digit? digit).getD 0 < 8 then c else c.toUpper

/-- The text of an address, with a checksum in the case of its letters. -/
def text (address : Bytes) : String :=
  let digits := Hex.encode address
  let hash := Hex.encode (Keccak256.digest (Encoding.utf8 digits))
  "0x" ++ String.ofList (List.zipWith raise digits.toList hash.toList)

/-- The address of a public key on the curve that Ethereum uses. -/
def ofPublicKey (key : Value) : Except Error String := do
  let q ← PublicKey.load key .secp256k1
  return text (ofPoint q)

end Address
end EbsiDid
