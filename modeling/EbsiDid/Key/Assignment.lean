import EbsiDid.Key.PublicKey

set_option autoImplicit false

/-!
Purposes by name, and which purposes a key may have: a Secp256k1 key has to serve capability
invocation, a Secp256r1 key serves assertion and authentication alone.
-/
namespace EbsiDid

namespace Purpose

def ofValue? (v : Value) : Option Purpose := v.text?.bind ofName?

/-- The values named one by one. A single text is one name. -/
def namesIn (v : Value) : Except Error (List Value) :=
  match v with
  | .text _ => .ok [v]
  | _ =>
      match v.items? with
      | some items => .ok items
      | none => .error .wrongType

def ofValues (values : List Value) : Except Error (List Purpose) :=
  match values.mapM ofValue? with
  | some purposes => .ok purposes
  | none => .error (.unknownPurpose (Value.list values).quoted)

end Purpose

namespace PurposeSet

/-- The purposes that a value names. -/
def ofValue (v : Value) : Except Error PurposeSet := do
  let values ← Purpose.namesIn v
  let purposes ← Purpose.ofValues values
  return ofList purposes

/-- As `ofValue`, with no purposes for what is empty. -/
def ofOptional (v : Value) : Except Error PurposeSet :=
  if v.truthy then ofValue v else .ok empty

def secp256r1Purposes : PurposeSet := ofList [.assertionMethod, .authentication]

def defaultFor : KeyType → PurposeSet
  | .secp256k1 => ofList [.capabilityInvocation]
  | .secp256r1 => secp256r1Purposes

def allowed (type : KeyType) (s : PurposeSet) : Except Error Unit :=
  match type with
  | .secp256k1 => if s.has .capabilityInvocation then .ok () else .error .purposeMissing
  | .secp256r1 => if s.subset secp256r1Purposes then .ok () else .error .purposeForbidden

/-- The purposes of a key of a type: those requested, if they are allowed, or the usual ones. -/
def assign (type : KeyType) (requested : Value) : Except Error PurposeSet := do
  let s ← ofOptional requested
  if s.isEmpty then return defaultFor type
  allowed type s
  return s

/-- As `assign`, for a key type by name. -/
def assignTo (type requested : Value) : Except Error PurposeSet :=
  match KeyType.ofValue type with
  | .ok t => assign t requested
  | .error _ => .error (.purposeKeyType type.display)

end PurposeSet
end EbsiDid
