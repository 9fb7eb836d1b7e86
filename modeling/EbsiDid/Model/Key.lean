import EbsiDid.Key.Assignment
import EbsiDid.Model.Basic

set_option autoImplicit false

/-!
Keys as the key storage sees them: descriptors of stored keys, and key material for import. The
attributes are kept as they were given; the type and the purposes are checked when a key is made.
-/
namespace EbsiDid

structure KeyDescriptor where
  kid : Value
  type : KeyType
  publicKeyHex : Value
  kms : Value
  purposes : PurposeSet
  isController : Value

structure ImportableKey where
  kms : Value
  type : KeyType
  privateKeyHex : Value
  kid : Value
  purposes : PurposeSet
  isController : Value

namespace PurposeSet

def values (s : PurposeSet) : Value := .list (s.names.map Value.text)

/-- A set with its members by name and value. Their order is the convention of `toList`. -/
def quoted (s : PurposeSet) : String :=
  if s.isEmpty then "frozenset()"
  else
    "frozenset(\x7b" ++ Text.joined ", " (s.toList.map fun p =>
      "<KeyPurpose." ++ p.label ++ ": " ++ Text.quoted p.name ++ ">") ++ "\x7d)"

end PurposeSet

def KeyType.quoted (t : KeyType) : String := "<KeyType." ++ t.label ++ ": " ++ Text.quoted t.name ++ ">"

namespace KeyDescriptor

open Schema

def shape : Shape FieldKind where
  fields := [
    .needed "kid" "kid" .text,
    .needed "type" "type" .keyType,
    .needed "public_key_hex" "publicKeyHex" .text,
    .orNull "kms" "kms" .text,
    .optional "purposes" "purposes" .purposeNames,
    .withDefault "is_controller" "isController" (.bool false) .flag]
  unknown := .drop

def attributes (k : KeyDescriptor) : Record :=
  [("kid", k.kid), ("type", .text k.type.name), ("public_key_hex", k.publicKeyHex), ("kms", k.kms),
   ("purposes", k.purposes.values), ("is_controller", k.isController)]

def ofArguments (a : Record) : Except Error KeyDescriptor := do
  Model.checkArguments ["kid", "type", "public_key_hex"] ["kms", "purposes", "is_controller"] a
  let type ← KeyType.ofValue (a.get "type")
  let purposes ← PurposeSet.ofOptional (a.get "purposes")
  return {
    kid := a.get "kid"
    type := type
    publicKeyHex := a.get "public_key_hex"
    kms := a.get "kms"
    purposes := purposes
    isController := (a.get? "is_controller").getD (.bool false) }

def model : Model KeyDescriptor where
  name := "KeyDescriptor"
  schema := .ok shape.nesting
  attributes := attributes
  ofArguments := ofArguments

def quoted (k : KeyDescriptor) : String :=
  Model.shown "KeyDescriptor" [
    ("kid", k.kid.quoted), ("type", k.type.quoted), ("public_key_hex", k.publicKeyHex.quoted),
    ("kms", k.kms.quoted), ("_purposes", k.purposes.quoted), ("is_controller", k.isController.quoted)]

end KeyDescriptor

namespace ImportableKey

open Schema

def shape : Shape FieldKind where
  fields := [
    .needed "kms" "kms" .text,
    .needed "type" "type" .keyType,
    .secret "private_key_hex" "privateKeyHex" .text,
    .orNull "kid" "kid" .text,
    .optional "purposes" "purposes" .purposeList,
    .withDefault "is_controller" "isController" (.bool false) .flag]
  unknown := .drop

def attributes (k : ImportableKey) : Record :=
  [("kms", k.kms), ("type", .text k.type.name), ("private_key_hex", k.privateKeyHex), ("kid", k.kid),
   ("purposes", k.purposes.values), ("is_controller", k.isController)]

def ofArguments (a : Record) : Except Error ImportableKey := do
  Model.checkArguments ["kms", "type", "private_key_hex"] ["kid", "purposes", "is_controller"] a
  let type ← KeyType.ofValue (a.get "type")
  let purposes ← PurposeSet.ofOptional (a.get "purposes")
  return {
    kms := a.get "kms"
    type := type
    privateKeyHex := a.get "private_key_hex"
    kid := a.get "kid"
    purposes := purposes
    isController := (a.get? "is_controller").getD (.bool false) }

def model : Model ImportableKey where
  name := "ImportableKey"
  schema := .ok shape.nesting
  attributes := attributes
  ofArguments := ofArguments

/-- Shows every attribute but the private key. -/
def quoted (k : ImportableKey) : String :=
  Model.shown "ImportableKey" [
    ("kms", k.kms.quoted), ("type", k.type.quoted), ("kid", k.kid.quoted),
    ("purposes", k.purposes.quoted), ("is_controller", k.isController.quoted)]

end ImportableKey
end EbsiDid
