import EbsiDid.Text.Basic

set_option autoImplicit false

/-!
The two kinds of keys that the registry accepts, and their names in each of its vocabularies.
-/
namespace EbsiDid

inductive KeyType where
  | secp256k1
  | secp256r1
deriving DecidableEq, Repr, Inhabited

namespace KeyType

def all : List KeyType := [.secp256k1, .secp256r1]

def name : KeyType → String
  | .secp256k1 => "Secp256k1"
  | .secp256r1 => "Secp256r1"

/-- The name of the curve. -/
def curve : KeyType → String
  | .secp256k1 => "secp256k1"
  | .secp256r1 => "secp256r1"

/-- The curve in a JSON Web Key. -/
def crv : KeyType → String
  | .secp256k1 => "secp256k1"
  | .secp256r1 => "P-256"

/-- The signature algorithm in a JSON Web Key. -/
def alg : KeyType → String
  | .secp256k1 => "ES256K"
  | .secp256r1 => "ES256"

/-- The member's own name, as code would spell it. -/
def label : KeyType → String
  | .secp256k1 => "SECP256K1"
  | .secp256r1 => "SECP256R1"

/-- Finds a key type by its name, whatever the case of its letters. -/
def ofName? (text : String) : Option KeyType := all.find? fun t => Text.sameLetters text t.name

/-- Finds a key type by its exact name. -/
def ofExactName? (text : String) : Option KeyType := all.find? fun t => text == t.name

theorem ofName?_name (t : KeyType) : ofName? t.name = some t := by
  cases t <;> decide +kernel

end KeyType
end EbsiDid
