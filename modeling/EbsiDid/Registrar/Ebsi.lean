import EbsiDid.Ledger.Session
import EbsiDid.Registrar.Options

set_option autoImplicit false

/-!
The registrar of `did:ebsi`. It makes identifiers with a controller key and a second key, writes them
to the registry when asked to, and adds keys and services to them. What it adds to an identifier is
appended only when the registry has taken every step.
-/
namespace EbsiDid

/-- The defaults of a registrar: a key management system, and options for the registry's address. -/
structure EbsiRegistrar where
  defaultKms : Value
  apiOpts : Record

/-- Whom a registrar works with: the registry, a signer, and a clock of seconds. -/
structure Partners (τ : Type) where
  transport : Transport τ
  signer : Signer τ
  clock : Value

namespace EbsiRegistrar

variable {τ : Type}

def provider : String := "did:ebsi"

/-- The type of a key, by its options. -/
def typeAsked (options : Record) (defaultType : KeyType) : Except Error KeyType :=
  if (options.get "type").truthy then KeyType.ofValue (options.get "type") else .ok defaultType

/-- The type of a key. A controller key can have but one. -/
def keyTypeFor (options : Record) (defaultType : KeyType) (isController : Bool) : Except Error KeyType := do
  let type ← typeAsked options defaultType
  if isController && type != .secp256k1 then .error (.controllerType type) else .ok type

/-- Key material for import, from the options of one key. -/
def importableKey (keyOptions : Value) (defaultType : KeyType) (kms length : Value)
    (isController : Bool) : Act τ ImportableKey := do
  let options ← Act.ofExcept (optionsOf keyOptions)
  let type ← Act.ofExcept (keyTypeFor options defaultType isController)
  let supplied ← Act.ofExcept (suppliedKey (options.get "private_key_hex"))
  let digits ← Act.draw fun r => r.privateKeyHex length supplied
  let purposes ← Act.ofExcept (PurposeSet.assign type (options.get "purposes"))
  return {
    kms := kms
    type := type
    privateKeyHex := .text digits
    kid := options.get "kid"
    purposes := purposes
    isController := .bool isController }

/-- The relationship under which a new identifier's second key is registered. -/
def creationRelationship (k : KeyDescriptor) : Purpose :=
  if k.purposes.isEmpty || k.purposes.has .assertionMethod then .assertionMethod
  else k.purposes.toList.headD .assertionMethod

/-- The options for the registry's address, those of the call over those of the registrar. -/
def addressOptions (reg : EbsiRegistrar) (options : Record) : Except Error Value := do
  let given ← Registry.layerOf (options.get "api_opts")
  return .record (Registry.merge [reg.apiOpts, given])

def creationSteps (did : Value) (controller second : KeyDescriptor) (v : Validity)
    (baseDocument : Value) : Except Error (List WriteStep) := do
  let insert ← WriteStep.insertDocument did controller v.notBefore v.notAfter baseDocument
  let method ← WriteStep.addMethod did controller second
  let relationship ← WriteStep.addRelationship did controller second (creationRelationship second)
    v.notBefore v.notAfter
  return [insert, method, relationship]

/-- Runs steps in a session under the controller's key. -/
def write (reg : EbsiRegistrar) (p : Partners τ) (kid : Value) (options : Record)
    (steps : Except Error (List WriteStep)) : Act τ (List Value) := do
  let steps ← Act.ofExcept steps
  let apiOpts ← Act.ofExcept (reg.addressOptions options)
  LedgerSession.execute p.transport p.signer ⟨kid, options.get "bearer_token", apiOpts⟩
    (options.get "rpc_id") steps

/-- The method-specific id: the given one, or a random one. -/
def chooseId (options : Record) (spec : DidSpec) : Act τ String :=
  if (options.get "method_specific_id").truthy then
    Act.pure (options.get "method_specific_id").display
  else Act.draw fun r => r.ebsiMethodSpecificId spec

/-- The description that a choice comes to. None that counts means the usual one. -/
def specOf (choice : SpecChoice) (options : Record) : Option DidSpec :=
  match choice with
  | .usual => some DidSpec.v1
  | .described spec => some spec
  | .unfit => if (options.get "type").truthy then none else some DidSpec.v1

def executes (options : Record) : Bool := (options.get "execute_ledger_operation").truthy

/-- Checks what is asked for, and tells which kind of DID it is. -/
def specFor (kms : Value) (choice : SpecChoice) (options : Record) : Except Error DidSpec :=
  if executes options && !(options.get "bearer_token").truthy then .error .noBearerToCreate
  else if (specOf choice options).any DidSpec.key.alike then .error .naturalPerson
  else if !kms.truthy then .error .noKms
  else
    match specOf choice options with
    | some spec => .ok spec
    | none => .error .missingAttribute

/-- What is settled about a new identifier before its keys are imported: the DID, and the material of
the controller key and of the second key. -/
structure Plan where
  did : Value
  controller : ImportableKey
  second : ImportableKey

/-- Checks the options of a creation, and settles the id and the keys. -/
def plan (reg : EbsiRegistrar) (kms : Value) (choice : SpecChoice) (options : Record) : Act τ Plan := do
  let kms := kms.orElse reg.defaultKms
  let spec ← Act.ofExcept (specFor kms choice options)
  let id ← chooseId options spec
  let controller ← importableKey (options.get "secp256k1_key") .secp256k1 kms spec.keyLength true
  let second ← importableKey (options.get "secp256r1_key") .secp256r1 kms spec.keyLength false
  return ⟨.text (spec.method.display ++ id), controller, second⟩

/-- Writes the document of a new identifier to the registry. -/
def register (reg : EbsiRegistrar) (p : Partners τ) (options : Record) (did : Value)
    (controller second : KeyDescriptor) : Act τ (List Value) := do
  let validity ← Act.ofExcept (Validity.ofOptions options p.clock)
  reg.write p controller.kid options
    (creationSteps did controller second validity (options.get "base_document"))

/-- Imports the keys of a plan, and writes the new identifier to the registry if the options say so. -/
def carryOut (reg : EbsiRegistrar) (p : Partners τ) (nickname : Value) (options : Record) (plan : Plan) :
    Act τ Identifier := do
  let controller ← Act.importKey plan.controller
  let second ← Act.importKey plan.second
  if executes options then
    let _ ← reg.register p options plan.did controller second
  Act.log .info ("Created " ++ plan.did.display)
  return {
    did := plan.did
    controllerKeyId := controller.kid
    keys := [controller, second]
    services := []
    nickname := nickname
    provider := .text provider }

/-- Makes an identifier. -/
def createIdentifier (reg : EbsiRegistrar) (p : Partners τ) (kms nickname : Value)
    (choice : SpecChoice) (options : Value) : Act τ Identifier := do
  let options ← Act.ofExcept (optionsOf options)
  let plan ← reg.plan kms choice options
  reg.carryOut p nickname options plan

def addKeySteps (did : Value) (controller key : KeyDescriptor) (relationships : List Purpose)
    (v : Validity) : Except Error (List WriteStep) := do
  let method ← WriteStep.addMethod did controller key
  let granted ← relationships.mapM fun r =>
    WriteStep.addRelationship did controller key r v.notBefore v.notAfter
  return method :: granted

def appendKey (identifier : Identifier) (key : KeyDescriptor) : Act τ Identifier := do
  Act.record (.addedKey key)
  return identifier.addKey key

def appendService (identifier : Identifier) (service : Service) : Act τ Identifier := do
  Act.record (.addedService service)
  return identifier.addService service

/-- Registers a key with its relationships, and appends it to the identifier. -/
def addKey (reg : EbsiRegistrar) (p : Partners τ) (identifier : Identifier) (key : KeyDescriptor)
    (options : Value) : Act τ (List Value × Identifier) := do
  let options ← Act.ofExcept (optionsOf options)
  let relationships ← Act.ofExcept (relationshipsOf (options.get "vm_relationships"))
  if !(options.get "bearer_token").truthy then Act.fail .noBearerToAddKey
  let controller ← Act.ofExcept identifier.controllerKey
  let validity ← Act.ofExcept (Validity.ofOptions options p.clock)
  let receipts ← reg.write p controller.kid options
    (addKeySteps identifier.did controller key relationships validity)
  let after ← appendKey identifier key
  return (receipts, after)

/-- Registers a service, and appends it to the identifier. -/
def addService (reg : EbsiRegistrar) (p : Partners τ) (identifier : Identifier) (service : Service)
    (options : Value) : Act τ (Value × Identifier) := do
  let options ← Act.ofExcept (optionsOf options)
  if !(options.get "bearer_token").truthy then Act.fail .noBearerToAddService
  let controller ← Act.ofExcept identifier.controllerKey
  let receipts ← reg.write p controller.kid options
    ((WriteStep.addService identifier.did controller service).map fun step => [step])
  let after ← appendService identifier service
  return (receipts.headD .null, after)

/-- Forgets an identifier. Its document stays on the ledger. -/
def deleteIdentifier (identifier : Identifier) : Act τ Bool := do
  Act.log .warning
    ("Deleting " ++ identifier.did.display ++ " does not deactivate it on the EBSI ledger")
  return true

end EbsiRegistrar
end EbsiDid
