set_option autoImplicit false

/-!
Families of errors. The families of this library form a tree above `base`, with one that stands
under two others; the rest come from unfit values and from the outside.
-/
namespace EbsiDid

inductive Kind where
  | base
  | validation
  | unsupportedKeyType
  | configuration
  | injection
  | wallet
  | keyNotFound
  | signing
  | invalidPurpose
  | invalidKeyLength
  | missingClaim
  | ledger
  | ledgerTransport
  | rpcFault
  | model
  | registrar
  | unsupportedMethod
  | invalidInput
  | unsupportedOperation
  | badValue
  | wrongType
  | missingKey
  | missingAttribute
  | overflow
  | badIndex
  | unencodable
  | timedOut
  | runtime
  | malformedJson
  | schemaViolation
  | invalidDid
  | connectionFailed
  | payloadFailed
  | serverTimedOut
  | unserializable
deriving DecidableEq, Repr, Inhabited

namespace Kind

def all : List Kind :=
  [base, validation, unsupportedKeyType, configuration, injection, wallet, keyNotFound, signing,
    invalidPurpose, invalidKeyLength, missingClaim, ledger, ledgerTransport, rpcFault, model,
    registrar, unsupportedMethod, invalidInput, unsupportedOperation, badValue, wrongType, missingKey,
    missingAttribute, overflow, badIndex, unencodable, timedOut, runtime, malformedJson,
    schemaViolation, invalidDid, connectionFailed, payloadFailed, serverTimedOut, unserializable]

theorem mem_all (k : Kind) : k ∈ all := by
  cases k <;> decide

/-- The families of this library that an error of a kind belongs to, its own first. -/
def lineage : Kind → List Kind
  | .base => [.base]
  | .validation => [.validation, .base]
  | .unsupportedKeyType => [.unsupportedKeyType, .validation, .base]
  | .configuration => [.configuration, .base]
  | .injection => [.injection, .configuration, .base]
  | .wallet => [.wallet, .base]
  | .keyNotFound => [.keyNotFound, .wallet, .base]
  | .signing => [.signing, .wallet, .base]
  | .invalidPurpose => [.invalidPurpose, .validation, .base]
  | .invalidKeyLength => [.invalidKeyLength, .validation, .base]
  | .missingClaim => [.missingClaim, .validation, .base]
  | .ledger => [.ledger, .base]
  | .ledgerTransport => [.ledgerTransport, .ledger, .base]
  | .rpcFault => [.rpcFault, .ledger, .base]
  | .model => [.model, .base]
  | .registrar => [.registrar, .base]
  | .unsupportedMethod => [.unsupportedMethod, .registrar, .base]
  | .invalidInput => [.invalidInput, .registrar, .validation, .base]
  | .unsupportedOperation => [.unsupportedOperation, .registrar, .base]
  | _ => []

/-- Is the kind one of this library's own? -/
def own (k : Kind) : Bool := !k.lineage.isEmpty

def isA (k family : Kind) : Bool := k.lineage.contains family

/-- Failures of the exchange with a server. -/
def isExchangeFailure : Kind → Bool
  | .connectionFailed => true
  | .payloadFailed => true
  | .serverTimedOut => true
  | _ => false

end Kind
end EbsiDid
