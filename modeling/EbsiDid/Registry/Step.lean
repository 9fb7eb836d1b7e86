import EbsiDid.Key.Jwk
import EbsiDid.Model.Document
import EbsiDid.Registry.Endpoint

set_option autoImplicit false

/-!
Write steps: a method of the registry with the parameters from which it builds a transaction. Every
step names the controller's address as its sender.
-/
namespace EbsiDid

/-- Public keys as the registry stores them: the uncompressed point in hex for Secp256k1, and the
indented JSON of the key, in hex, for Secp256r1. -/
def Registry.publicKeyText (key : Value) (type : KeyType) : Except Error String :=
  match type with
  | .secp256k1 => (PublicKey.uncompressed key type).map Hex.encode
  | .secp256r1 => do
      let q ← PublicKey.load key type
      let jwk := Jwk.ofPoint type q (.text "sig")
      return Hex.encode (Encoding.utf8 (Json.write Json.indented (.record jwk.record)))

namespace KeyDescriptor

/-- The id of the key's verification method: the thumbprint of its public key. -/
def methodId (k : KeyDescriptor) : Except Error String :=
  Jwk.thumbprintOfKey k.publicKeyHex (.text k.type.name) Jwk.defaultDigest

def registryText (k : KeyDescriptor) : Except Error String :=
  Registry.publicKeyText k.publicKeyHex k.type

def address (k : KeyDescriptor) : Except Error String := Address.ofPublicKey k.publicKeyHex

end KeyDescriptor

structure WriteStep where
  method : RpcMethod
  params : Value

namespace WriteStep

def insertDocument (did : Value) (controller : KeyDescriptor) (notBefore notAfter baseDocument : Value) :
    Except Error WriteStep := do
  let sender ← controller.address
  let id ← controller.methodId
  let key ← controller.registryText
  return ⟨.insertDidDocument,
    .record [("from", .text sender), ("did", did),
      ("baseDocument", baseDocument.orElse (.text Registry.baseContextDocument)),
      ("vMethodId", .text id), ("isSecp256k1", .bool true), ("publicKey", .text key),
      ("notBefore", notBefore), ("notAfter", notAfter)]⟩

def addMethod (did : Value) (controller key : KeyDescriptor) : Except Error WriteStep := do
  let sender ← controller.address
  let id ← key.methodId
  let text ← key.registryText
  return ⟨.addVerificationMethod,
    .record [("from", .text sender), ("did", did), ("isSecp256k1", .bool (key.type == .secp256k1)),
      ("vMethodId", .text id), ("publicKey", .text text)]⟩

def relationship (sender : String) (did : Value) (id : String) (purpose : Purpose)
    (notBefore notAfter : Value) : WriteStep :=
  ⟨.addVerificationMethodRelationship,
    .record [("from", .text sender), ("did", did), ("vMethodId", .text id),
      ("name", .text purpose.name), ("notBefore", notBefore), ("notAfter", notAfter)]⟩

def addRelationship (did : Value) (controller key : KeyDescriptor) (purpose : Purpose)
    (notBefore notAfter : Value) : Except Error WriteStep := do
  let sender ← controller.address
  let id ← key.methodId
  return relationship sender did id purpose notBefore notAfter

/-- As `addRelationship`, for a purpose by name. The name is read once the keys have loaded. -/
def addRelationshipNamed (did : Value) (controller key : KeyDescriptor) (name : Value)
    (notBefore notAfter : Value) : Except Error WriteStep := do
  let sender ← controller.address
  let id ← key.methodId
  match Purpose.ofValue? name with
  | some purpose => return relationship sender did id purpose notBefore notAfter
  | none => .error .badValue

def addService (did : Value) (controller : KeyDescriptor) (service : Service) :
    Except Error WriteStep := do
  let sender ← controller.address
  return ⟨.addService,
    .record [("from", .text sender), ("did", did), ("service", .record service.json)]⟩

end WriteStep
end EbsiDid
