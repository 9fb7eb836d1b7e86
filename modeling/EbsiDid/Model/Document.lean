import EbsiDid.Model.Key

set_option autoImplicit false

/-!
Services of a DID document, and transactions as the signer returns them.
-/
namespace EbsiDid

structure Service where
  id : Value
  type : Value
  serviceEndpoint : Value
  description : Value

structure SignedTransaction where
  r : Value
  s : Value
  v : Value
  signedRawTransaction : Value

namespace Service

open Schema

def shape : Shape FieldKind where
  fields := [
    .needed "id" "id" .text,
    .needed "type" "type" .text,
    .needed "service_endpoint" "serviceEndpoint" .anything,
    .orNull "description" "description" .text]
  unknown := .drop

def attributes (s : Service) : Record :=
  [("id", s.id), ("type", s.type), ("service_endpoint", s.serviceEndpoint),
   ("description", s.description)]

def ofArguments (a : Record) : Except Error Service := do
  Model.checkArguments ["id", "type", "service_endpoint"] ["description"] a
  return {
    id := a.get "id"
    type := a.get "type"
    serviceEndpoint := a.get "service_endpoint"
    description := a.get "description" }

def model : Model Service where
  name := "Service"
  schema := .ok shape.nesting
  attributes := attributes
  ofArguments := ofArguments

/-- The JSON form. Writing a service cannot fail. -/
def json (s : Service) : Record := shape.nesting.dump Nesting.dump s.attributes

def quoted (s : Service) : String :=
  Model.shown "Service" (s.attributes.map fun member => (member.1, member.2.quoted))

end Service

namespace SignedTransaction

open Schema

def shape : Shape FieldKind where
  fields := [
    .needed "r" "r" .text,
    .needed "s" "s" .text,
    .needed "v" "v" .anything,
    .needed "signed_raw_transaction" "signedRawTransaction" .text]
  unknown := .drop

def attributes (t : SignedTransaction) : Record :=
  [("r", t.r), ("s", t.s), ("v", t.v), ("signed_raw_transaction", t.signedRawTransaction)]

def ofArguments (a : Record) : Except Error SignedTransaction := do
  Model.checkArguments ["r", "s", "v", "signed_raw_transaction"] [] a
  return {
    r := a.get "r"
    s := a.get "s"
    v := a.get "v"
    signedRawTransaction := a.get "signed_raw_transaction" }

def model : Model SignedTransaction where
  name := "SignedTransaction"
  schema := .ok shape.nesting
  attributes := attributes
  ofArguments := ofArguments

def quoted (t : SignedTransaction) : String :=
  Model.shown "SignedTransaction" (t.attributes.map fun member => (member.1, member.2.quoted))

/-- The parameters with which a signed transaction is sent, beside the one that was built. A `v` that is an integer is
taken to be within the digits of base ten. -/
def envelope (t : SignedTransaction) (unsigned : Value) : Record :=
  [("protocol", .text "eth"), ("unsignedTransaction", unsigned), ("r", t.r), ("s", t.s),
   ("v", .text t.v.display), ("signedRawTransaction", t.signedRawTransaction)]

end SignedTransaction
end EbsiDid
