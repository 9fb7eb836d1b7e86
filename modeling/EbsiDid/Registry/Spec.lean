import EbsiDid.Random.Stream

set_option autoImplicit false

/-!
Kinds of EBSI DIDs, and the random parts of a new DID: the method-specific id and private keys.
-/
namespace EbsiDid

/-- A kind of DID as it is described. Nothing about the description is checked. -/
structure DidSpec where
  type : Value
  method : Value
  version : Value
  didLength : Value
  privateKeyLength : Value

namespace DidSpec

/-- Legal entities. -/
def v1 : DidSpec := ⟨.text "Legal Entity", .text "did:ebsi:", .int 1, .int 16, .int 32⟩

/-- Natural persons, whose DIDs are public keys. -/
def key : DidSpec := ⟨.text "Natural Person", .text "did:key:", .null, .null, .null⟩

def record (spec : DidSpec) : Record :=
  [("type", spec.type), ("method", spec.method), ("version", spec.version),
   ("did_length", spec.didLength), ("private_key_length", spec.privateKeyLength)]

/-- Descriptions are alike when all their parts are. -/
def alike (a b : DidSpec) : Bool := Value.fieldsAlike a.record b.record

/-- Lengths have a default where they are absent or zero. -/
def idLength (spec : DidSpec) : Value := spec.didLength.orElse (.int 16)

def keyLength (spec : DidSpec) : Value := spec.privateKeyLength.orElse (.int 32)

end DidSpec

/-- The first character of a base 58 text that names its own encoding. -/
def multibaseMark : String := "z"

/-- The byte in front of the random ones, if a version is given. -/
def versionBytes (version : Value) : Except Error Bytes :=
  match version with
  | .null => .ok []
  | _ =>
      match version.whole? with
      | some v => if 0 ≤ v ∧ v < 256 then .ok [UInt8.ofNat v.toNat] else .error .badValue
      | none => .error .wrongType

namespace RandomStream

def methodSpecificId (r : RandomStream) (length version : Value) : Except Error String × RandomStream :=
  match versionBytes version with
  | .error e => (.error e, r)
  | .ok front =>
      let (drawn, rest) := r.takeBytes length
      (drawn.map fun bytes => Base58.encode (front ++ bytes), rest)

def ebsiMethodSpecificId (r : RandomStream) (spec : DidSpec) : Except Error String × RandomStream :=
  let (id, rest) := r.methodSpecificId spec.idLength spec.version
  (id.map (multibaseMark ++ ·), rest)

/-- Private key digits: of the bytes supplied, which have to be `length` many, or of fresh ones. -/
def privateKeyHex (r : RandomStream) (length : Value) (supplied : Option Bytes) :
    Except Error String × RandomStream :=
  match supplied with
  | some bytes =>
      if length.alike (.int bytes.length) then (.ok (Hex.encode bytes), r)
      else (.error (.keyLength bytes.length length), r)
  | none =>
      let (drawn, rest) := r.takeBytes length
      (drawn.map Hex.encode, rest)

end RandomStream
end EbsiDid
