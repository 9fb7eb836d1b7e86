import EbsiDid.Error.Chain
import EbsiDid.Key.Type
import EbsiDid.Key.Purpose

set_option autoImplicit false

/-!
What can go wrong, one constructor for each cause. `kind` names the family, `message` gives the
wording, and `cause` the error behind it, if there is one.
-/
namespace EbsiDid

inductive Error where
  -- keys
  | unsupportedKeyType (shown : String)
  | unsupportedJwkType
  | unsupportedDigest (shown : String)
  | missingClaim (member : String)
  | publicKeyNotHex
  | publicKeyInvalid (type : KeyType) (size : Nat)
  | unknownPurpose (shown : String)
  | purposeKeyType (shown : String)
  | purposeMissing
  | purposeForbidden
  | keyLength (supplied : Nat) (expected : Value)
  -- settings and bindings
  | settingNotInteger (name shown : String) (cause : Kind)
  | settingNotNumber (name shown : String) (cause : Kind)
  | settingNameNotText
  | settingNameEmpty
  | indexNotText
  | undefinedIndex (name : String)
  | noClassGiven
  | noInstance (className : String)
  | wrongInstance (className : String)
  -- randomness
  | streamExhausted
  | noRpcIds
  -- models
  | schemaViolation (detail : Value)
  | modelInvalid (model : String) (cause : Kind) (detail : Option Value)
  | modelUnreadable (model : String) (cause : Kind)
  | noSchemaClass (model : String)
  | noModelClass (schema : String)
  | controllerKeyMissing (kid did : String)
  -- key manager and signing
  | privateKeyInvalid (type : KeyType)
  | unknownKey (kid : String)
  | signerUnknownKey (kid : String)
  | signerWrongType (kid : String) (type : KeyType)
  | couldNotSign
  | signingFailed (kid : String) (cause : Error)
  -- registry
  | unreachable (method url : String) (cause : Kind)
  | rpcFault (payload : Value) (method : String) (rpcId : Value)
  -- registrar
  | noBearerToCreate
  | noBearerToAddKey
  | noBearerToAddService
  | naturalPerson
  | noKms
  | controllerType (type : KeyType)
  | privateKeyNotHex
  | noRelationship
  | removingKeys
  | removingServices
  | updatingDocuments
  -- dispatch
  | methodAndDid
  | methodNorDid
  | didNotParsed (did : String)
  | noRegistrar (method : String)
  | invalidDid
  -- values and the outside
  | foreign (kind : Kind)
  | reported (kind : Kind) (text : String)
deriving Inhabited

namespace Error

def badValue : Error := .foreign .badValue
def wrongType : Error := .foreign .wrongType
def missingAttribute : Error := .foreign .missingAttribute

def kind : Error → Kind
  | unsupportedKeyType _ => .unsupportedKeyType
  | unsupportedJwkType => .unsupportedKeyType
  | unsupportedDigest _ => .validation
  | missingClaim _ => .missingClaim
  | publicKeyNotHex => .validation
  | publicKeyInvalid _ _ => .validation
  | unknownPurpose _ => .invalidPurpose
  | purposeKeyType _ => .invalidPurpose
  | purposeMissing => .invalidPurpose
  | purposeForbidden => .invalidPurpose
  | keyLength _ _ => .invalidKeyLength
  | settingNotInteger _ _ _ => .configuration
  | settingNotNumber _ _ _ => .configuration
  | settingNameNotText => .wrongType
  | settingNameEmpty => .badValue
  | indexNotText => .wrongType
  | undefinedIndex _ => .missingKey
  | noClassGiven => .injection
  | noInstance _ => .injection
  | wrongInstance _ => .injection
  | streamExhausted => .badValue
  | noRpcIds => .badValue
  | schemaViolation _ => .schemaViolation
  | modelInvalid _ _ _ => .model
  | modelUnreadable _ _ => .model
  | noSchemaClass _ => .wrongType
  | noModelClass _ => .wrongType
  | controllerKeyMissing _ _ => .validation
  | privateKeyInvalid _ => .wallet
  | unknownKey _ => .keyNotFound
  | signerUnknownKey _ => .signing
  | signerWrongType _ _ => .signing
  | couldNotSign => .signing
  | signingFailed _ _ => .signing
  | unreachable _ _ _ => .ledgerTransport
  | rpcFault _ _ _ => .rpcFault
  | noBearerToCreate => .invalidInput
  | noBearerToAddKey => .invalidInput
  | noBearerToAddService => .invalidInput
  | naturalPerson => .invalidInput
  | noKms => .invalidInput
  | controllerType _ => .invalidInput
  | privateKeyNotHex => .invalidInput
  | noRelationship => .invalidInput
  | removingKeys => .unsupportedOperation
  | removingServices => .unsupportedOperation
  | updatingDocuments => .unsupportedOperation
  | methodAndDid => .invalidInput
  | methodNorDid => .invalidInput
  | didNotParsed _ => .invalidInput
  | noRegistrar _ => .unsupportedMethod
  | invalidDid => .invalidDid
  | foreign kind => kind
  | reported kind _ => kind

/-- The wording, where this library gives one. -/
def wording : Error → Option String
  | unsupportedKeyType shown => some ("Unsupported key type: " ++ shown)
  | unsupportedJwkType => some "\"kty\" (Key Type) parameter missing or unsupported"
  | unsupportedDigest shown => some ("Unsupported digest algorithm: " ++ shown)
  | missingClaim member => some ("JWK \"" ++ member ++ "\" parameter missing or invalid")
  | publicKeyNotHex => some "Public key is not valid hex"
  | publicKeyInvalid type size =>
      some ("Invalid " ++ type.name ++ " public key of " ++ Number.text size ++ " bytes")
  | unknownPurpose shown => some ("Unknown key purpose in " ++ shown)
  | purposeKeyType shown => some ("Unsupported key type: " ++ shown)
  | purposeMissing =>
      some ("Secp256k1 key requires " ++ Purpose.capabilityInvocation.name ++ " purpose")
  | purposeForbidden =>
      some ("Secp256r1 key only allows " ++ Purpose.assertionMethod.name ++ ", "
        ++ Purpose.authentication.name ++ " purposes")
  | keyLength supplied expected =>
      some ("Invalid private key length supplied (" ++ Number.text supplied ++ "). Expected "
        ++ expected.display)
  | settingNotInteger name shown _ => some ("Setting " ++ name ++ " is not an integer: " ++ shown)
  | settingNotNumber name shown _ => some ("Setting " ++ name ++ " is not a number: " ++ shown)
  | settingNameNotText => some "Setting name must be a string"
  | settingNameEmpty => some "Setting name must be non-empty"
  | indexNotText => some "Index must be a string"
  | undefinedIndex name => some ("Undefined index: " ++ name)
  | noClassGiven => some "No base class provided to lookup"
  | noInstance className => some ("No instance provided for class: " ++ className)
  | wrongInstance className => some ("Provided instance does not implement the base class: " ++ className)
  | streamExhausted => some "Random byte stream exhausted"
  | noRpcIds => some "No rpc ids left"
  | modelInvalid model _ _ => some (model ++ " schema validation failed")
  | modelUnreadable model _ => some (model ++ " JSON parsing failed")
  | noSchemaClass model => some ("Can't instantiate abstract class " ++ model ++ " with no schema_class")
  | noModelClass schema => some ("Can't instantiate abstract class " ++ schema ++ " with no model_class")
  | controllerKeyMissing kid did => some ("Controller key " ++ kid ++ " not found for " ++ did)
  | privateKeyInvalid type => some ("Invalid " ++ type.name ++ " private key")
  | unknownKey kid => some ("Unknown key: " ++ kid)
  | signerUnknownKey kid => some ("Unknown key: " ++ kid)
  | signerWrongType kid type =>
      some ("Key " ++ kid ++ " of type " ++ type.name ++ " cannot sign Ethereum transactions")
  | couldNotSign => some "Could not sign transaction"
  | signingFailed kid _ => some ("Signing with key " ++ kid ++ " failed")
  | unreachable method url _ => some ("Error calling " ++ method ++ " on " ++ url)
  | rpcFault payload method _ => some (Notice.rpcFaultText (.text method) payload)
  | noBearerToCreate => some "Bearer token must be provided to execute ledger operation"
  | noBearerToAddKey => some "Bearer token must be provided to add a key"
  | noBearerToAddService => some "Bearer token must be provided to add a service"
  | naturalPerson =>
      some "Type Natural Person not supported. Natural person EBSI DIDs are did:key DIDs"
  | noKms => some "No KMS value provided"
  | controllerType type =>
      some ("Controller key must be " ++ KeyType.secp256k1.name ++ ", not " ++ type.name)
  | privateKeyNotHex => some "Private key must be hex encoded"
  | noRelationship => some "No verification method relationship provided"
  | removingKeys => some "Removing keys is not implemented for the EBSI registrar"
  | removingServices => some "Removing services is not implemented for the EBSI registrar"
  | updatingDocuments => some "Updating DID documents is not implemented for the EBSI registrar"
  | methodAndDid => some "method and did must be 'exclusive or'"
  | methodNorDid => some "Either did or method must be provided"
  | didNotParsed did => some ("Invalid DID: " ++ did)
  | noRegistrar method => some ("No registrar for method " ++ method)
  | reported kind text => if kind.own then some text else none
  | schemaViolation _ => none
  | invalidDid => none
  | foreign _ => none

/-- The message, trimmed for the families of this library. -/
def message (e : Error) : Option String :=
  e.wording.map fun text => if e.kind.own then Text.trim text else text

/-- The kind of the error behind this one. -/
def cause : Error → Option Kind
  | publicKeyNotHex => some .badValue
  | publicKeyInvalid _ _ => some .badValue
  | unknownPurpose _ => some .badValue
  | purposeKeyType _ => some .unsupportedKeyType
  | settingNotInteger _ _ cause => some cause
  | settingNotNumber _ _ cause => some cause
  | modelInvalid _ cause _ => some cause
  | modelUnreadable _ cause => some cause
  | privateKeyInvalid _ => some .badValue
  | signingFailed _ cause => some cause.kind
  | unreachable _ _ cause => some cause
  | privateKeyNotHex => some .badValue
  | didNotParsed _ => some .invalidDid
  | _ => none

/-- What a schema found wrong, by field. -/
def detail : Error → Option Value
  | schemaViolation detail => some detail
  | modelInvalid _ _ detail => detail
  | _ => none

end Error
end EbsiDid
