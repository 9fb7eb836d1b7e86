import EbsiDid.Error.Basic
import EbsiDid.Json.Writer

set_option autoImplicit false

/-!
The registry's addresses, its methods and its fixed values, and the options that choose an address.
-/
namespace EbsiDid

namespace Registry

def defaultEnvironment : String := "pilot"
def defaultVersion : String := "v5"
def defaultHost : String := "ebsi.eu"

/-- The end of validity where none is given: the greatest integer that every JSON reader keeps. -/
def maxNotAfter : Int := 9007199254740991

def baseContext : List String :=
  ["https://www.w3.org/ns/did/v1", "https://w3id.org/security/suites/jws-2020/v1"]

/-- The document that an insertion starts from. -/
def baseContextDocument : String :=
  Json.write Json.spaced (.record [("@context", .list (baseContext.map Value.text))])

structure Urls where
  mutate : String
  query : String
deriving DecidableEq, Repr

/-- Addresses for an environment, a version and a host. What is empty gets its default. -/
def urls (environment version host : Value) : Urls :=
  let base := "https://api-" ++ (environment.orElse (.text defaultEnvironment)).display ++ "."
    ++ (host.orElse (.text defaultHost)).display ++ "/did-registry/"
    ++ (version.orElse (.text defaultVersion)).display
  ⟨base ++ "/jsonrpc", base ++ "/identifiers"⟩

/-- The members of an option layer that are not null. -/
def layer (options : Record) : Record := options.filter fun member => !member.2.isNull

/-- Merges layers, the later one winning. Null members do not count. -/
def merge (layers : List Record) : Record :=
  layers.foldl (fun acc options => Record.update acc (layer options)) []

/-- The layer that a value stands for. What is empty is an empty layer. -/
def layerOf (v : Value) : Except Error Record :=
  if v.truthy then
    match v with
    | .record fields => .ok fields
    | _ => .error .missingAttribute
  else .ok []

def mergeValues (layers : List Value) : Except Error Record := (layers.mapM layerOf).map merge

end Registry

inductive RpcMethod where
  | insertDidDocument
  | addVerificationMethod
  | addVerificationMethodRelationship
  | addService
  | sendSignedTransaction
deriving DecidableEq, Repr

namespace RpcMethod

def all : List RpcMethod :=
  [.insertDidDocument, .addVerificationMethod, .addVerificationMethodRelationship, .addService,
   .sendSignedTransaction]

def name : RpcMethod → String
  | .insertDidDocument => "insertDidDocument"
  | .addVerificationMethod => "addVerificationMethod"
  | .addVerificationMethodRelationship => "addVerificationMethodRelationship"
  | .addService => "addService"
  | .sendSignedTransaction => "sendSignedTransaction"

def ofName? (text : String) : Option RpcMethod := all.find? fun m => text == m.name

end RpcMethod
end EbsiDid
