import EbsiDid.Did
import EbsiDid.Model.Document

set_option autoImplicit false

/-!
Identifiers: a DID with its keys and services. Keys stay in order of insertion, with the controller
key first; keys and services can only be appended.
-/
namespace EbsiDid

structure Identifier where
  did : Value
  controllerKeyId : Value
  keys : List KeyDescriptor
  services : List Service
  nickname : Value
  provider : Value

namespace Identifier

open Schema

def shape : Shape Nesting where
  fields := [
    .needed "did" "did" (.simple .text),
    .needed "controller_key_id" "controllerKeyId" (.simple .text),
    .optional "keys" "keys" (.records KeyDescriptor.shape),
    .optional "services" "services" (.records Service.shape),
    .orNull "alias" "alias" (.simple .text),
    .orNull "provider" "provider" (.simple .text)]
  unknown := .drop

def attributes (i : Identifier) : Record :=
  [("did", i.did), ("controller_key_id", i.controllerKeyId),
   ("keys", .list (i.keys.map fun k => .record k.attributes)),
   ("services", .list (i.services.map fun s => .record s.attributes)),
   ("alias", i.nickname), ("provider", i.provider)]

/-- Makes each member of a list from its arguments. -/
def members {α : Type} (make : Record → Except Error α) (v : Value) : Except Error (List α) :=
  if v.truthy then
    match v with
    | .list items => items.mapM fun item =>
        match item with
        | .record a => make a
        | _ => .error .wrongType
    | _ => .error .wrongType
  else .ok []

/-- Keys and services are made before the arguments themselves are looked at. -/
def ofArguments (a : Record) : Except Error Identifier := do
  let keys ← members KeyDescriptor.ofArguments (a.get "keys")
  let services ← members Service.ofArguments (a.get "services")
  Model.checkArguments ["did", "controller_key_id"] ["keys", "services", "alias", "provider"] a
  return {
    did := a.get "did"
    controllerKeyId := a.get "controller_key_id"
    keys := keys
    services := services
    nickname := a.get "alias"
    provider := a.get "provider" }

def model : Model Identifier where
  name := "Identifier"
  schema := .ok shape
  attributes := attributes
  ofArguments := ofArguments

def quoted (i : Identifier) : String :=
  Model.shown "Identifier" [
    ("did", i.did.quoted), ("controller_key_id", i.controllerKeyId.quoted),
    ("_keys", "[" ++ Text.joined ", " (i.keys.map KeyDescriptor.quoted) ++ "]"),
    ("_services", "[" ++ Text.joined ", " (i.services.map Service.quoted) ++ "]"),
    ("alias", i.nickname.quoted), ("provider", i.provider.quoted)]

def method (i : Identifier) : Except Error String := (Did.ofValue i.did).map Did.method

/-- The first key with the id of the controller key. -/
def controllerKey (i : Identifier) : Except Error KeyDescriptor :=
  match i.keys.find? fun k => k.kid.equals i.controllerKeyId with
  | some k => .ok k
  | none => .error (.controllerKeyMissing i.controllerKeyId.display i.did.display)

def addKey (i : Identifier) (k : KeyDescriptor) : Identifier := { i with keys := i.keys ++ [k] }

def addService (i : Identifier) (s : Service) : Identifier := { i with services := i.services ++ [s] }

end Identifier
end EbsiDid
