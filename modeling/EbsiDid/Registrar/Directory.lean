import EbsiDid.Json.Order
import EbsiDid.Registrar.Options

set_option autoImplicit false

/-!
The directory of registrars by DID method, and the operations that it hands on. An operation on an
identifier goes to the registrar of its DID's method.
-/
namespace EbsiDid

/-- Registrars `ρ` by method. -/
structure Directory (ρ : Type) where
  registrars : Entries ρ

/-- What can be asked of a registrar, over keys `κ` and services `ς`. -/
inductive Operation (κ ς : Type) where
  | createIdentifier (method kms nickname : Value) (spec : SpecChoice) (options : Value)
  | addKey (i : Identifier) (key : κ) (options : Value)
  | addService (i : Identifier) (service : ς) (options : Value)
  | removeKey (i : Identifier) (kid options : Value)
  | removeService (i : Identifier) (serviceId options : Value)
  | updateIdentifier (i : Identifier) (document options : Value)
  | deleteIdentifier (i : Identifier)

/-- The method and the DID by which an operation finds its registrar. -/
def Operation.target {κ ς : Type} : Operation κ ς → Value × Value
  | .createIdentifier method _ _ _ _ => (method, .null)
  | .addKey i _ _ => (.null, i.did)
  | .addService i _ _ => (.null, i.did)
  | .removeKey i _ _ => (.null, i.did)
  | .removeService i _ _ => (.null, i.did)
  | .updateIdentifier i _ _ => (.null, i.did)
  | .deleteIdentifier i => (.null, i.did)

namespace Operation

/-- The name of an operation and its arguments. An identifier stands as its DID. -/
def call : Operation Value Value → String × List Value
  | .createIdentifier _ kms nickname _ options => ("create_identifier", [kms, nickname, options])
  | .addKey i key options => ("add_key", [i.did, key, options])
  | .addService i service options => ("add_service", [i.did, service, options])
  | .removeKey i kid options => ("remove_key", [i.did, kid, options])
  | .removeService i serviceId options => ("remove_service", [i.did, serviceId, options])
  | .updateIdentifier i document options => ("update_identifier", [i.did, document, options])
  | .deleteIdentifier i => ("delete_identifier", [i.did])

/-- The operation of a name on an identifier. What is added needs options; elsewhere they may be
left out. -/
def named (name : String) (i : Identifier) (args : List Value) : Except Error (Operation Value Value) :=
  match name, args with
  | "add_key", [key, options] => .ok (.addKey i key options)
  | "add_service", [service, options] => .ok (.addService i service options)
  | "remove_key", [kid] => .ok (.removeKey i kid .null)
  | "remove_key", [kid, options] => .ok (.removeKey i kid options)
  | "remove_service", [serviceId] => .ok (.removeService i serviceId .null)
  | "remove_service", [serviceId, options] => .ok (.removeService i serviceId options)
  | "update_identifier", [document] => .ok (.updateIdentifier i document .null)
  | "update_identifier", [document, options] => .ok (.updateIdentifier i document options)
  | "delete_identifier", [] => .ok (.deleteIdentifier i)
  | _, _ => .error .wrongType

end Operation

namespace Directory

variable {ρ : Type}

def empty : Directory ρ := ⟨[]⟩

/-- Puts a registrar under a method, in place of an earlier one. -/
def put (d : Directory ρ) (method : Value) (r : ρ) : Directory ρ := ⟨d.registrars.put method r⟩

/-- Registers a registrar for the method that it names, which has to be a key. -/
def register (d : Directory ρ) (method : Value) (r : ρ) : Except Error (Directory ρ) :=
  if method.hashable then .ok (d.put method r) else .error .wrongType

/-- The methods in order, if they have one. -/
def methods (d : Directory ρ) : Except Error Value :=
  match Value.sorted? d.registrars.keys with
  | some methods => .ok (.list methods)
  | none => .error .wrongType

def lookup (d : Directory ρ) (method : Value) : Except Error ρ :=
  if method.hashable then
    match d.registrars.get? method with
    | some r => .ok r
    | none => .error (.noRegistrar method.display)
  else .error .wrongType

/-- The method of a DID. -/
def methodOf (did : Value) : Except Error Value :=
  match Did.ofValue did with
  | .ok parsed => .ok (.text parsed.method)
  | .error .invalidDid => .error (.didNotParsed did.display)
  | .error e => .error e

/-- The registrar for a method or for the method of a DID. Exactly one of the two is to be given. -/
def registrarFor (d : Directory ρ) (method did : Value) : Except Error ρ :=
  match method.truthy, did.truthy with
  | true, true => .error .methodAndDid
  | false, false => .error .methodNorDid
  | true, false => d.lookup method
  | false, true => do
      let m ← methodOf did
      d.lookup m

/-- The one call that an operation leads to: the registrar, and the operation as it was asked. -/
def dispatch {κ ς : Type} (d : Directory ρ) (op : Operation κ ς) : Except Error (ρ × Operation κ ς) :=
  (d.registrarFor op.target.1 op.target.2).map fun r => (r, op)

end Directory
end EbsiDid
