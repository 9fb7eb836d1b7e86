import EbsiDid.Curve.Ecdsa
import EbsiDid.Ethereum.Transaction
import EbsiDid.Json.Entries
import EbsiDid.Model.Document

set_option autoImplicit false

/-!
A key manager that holds private keys in memory, by handle, and signs transactions with them. The
text of a private key is kept as it came; the descriptor holds the public key derived from it.
-/
namespace EbsiDid

structure KeyManager where
  privateKeys : Entries String
  keys : Entries KeyDescriptor
  locks : Entries Unit

namespace KeyManager

def empty : KeyManager := ⟨[], [], []⟩

/-- The number that a private key text spells, if it can be one on the curve. -/
def scalar? (text : String) (type : KeyType) : Option Nat := do
  let n ← Number.hexadecimal? text
  if (Curve.ofType type).isScalar n then return n.toNat else none

/-- The compressed public key of a private key text. -/
def publicKeyOf? (text : String) (type : KeyType) : Option String := do
  let n ← scalar? text type
  let q ← (Curve.ofType type).ofScalar? n
  return Hex.encode (Sec1.compressed q)

/-- The descriptor that an import stores. The handle defaults to the public key. -/
def describe (key : ImportableKey) (publicKey : String) : KeyDescriptor where
  kid := key.kid.orElse (.text publicKey)
  type := key.type
  publicKeyHex := .text publicKey
  kms := key.kms
  purposes := key.purposes
  isController := key.isController

def importedLine (k : KeyDescriptor) : LogLine :=
  ⟨.debug, "Imported " ++ k.type.name ++ " key " ++ k.kid.display⟩

def store (m : KeyManager) (text : String) (k : KeyDescriptor) : KeyManager :=
  { m with privateKeys := m.privateKeys.put k.kid text, keys := m.keys.put k.kid k }

/-- Imports a private key and derives its public key. -/
def importKey (m : KeyManager) (key : ImportableKey) : Reply KeyDescriptor × KeyManager :=
  match key.privateKeyHex with
  | .text given =>
      let text := Hex.stripMark given
      match publicKeyOf? text key.type with
      | none => (.silent (.error (.privateKeyInvalid key.type)), m)
      | some publicKey =>
          let k := describe key publicKey
          if k.kid.hashable then (⟨.ok k, [importedLine k]⟩, m.store text k)
          else (.silent (.error .wrongType), m)
  | _ => (.silent (.error .missingAttribute), m)

def getKey (m : KeyManager) (kid : Value) : Except Error KeyDescriptor :=
  if kid.hashable then
    match m.keys.get? kid with
    | some k => .ok k
    | none => .error (.unknownKey kid.display)
  else .error .wrongType

/-- Deletes a key. Tells whether there was one. Without any key, nothing is asked of the handle. -/
def deleteKey (m : KeyManager) (kid : Value) : Except Error Bool × KeyManager :=
  if kid.hashable || m.keys.isEmpty then
    (.ok (m.keys.has kid),
     { privateKeys := m.privateKeys.erase kid, keys := m.keys.erase kid, locks := m.locks.erase kid })
  else (.error .wrongType, m)

/-- The 32 bytes of a private key text, which has to be hexadecimal digits and nothing else. -/
def signingKey? (text : String) : Option Bytes := do
  let digits := text.toList
  if !(Ethereum.Transaction.isHexText digits) then none
  let bytes ← Hex.decodeChars (if digits.length % 2 = 0 then digits else '0' :: digits)
  if bytes.length = 32 then return bytes else none

def word (n : Nat) : Value := .text (Hex.marked (Encoding.bigEndian 32 n))

/-- A signed transaction as it is answered. -/
def answer (t : Ethereum.Transaction) (g : Signature) : SignedTransaction where
  r := word g.r
  s := word g.s
  v := .int (Ethereum.recoveryV (t.signatureV g.recovery))
  signedRawTransaction := .text (Hex.marked (t.signed g.r g.s g.recovery))

def signTransaction (key : Bytes) (t : Ethereum.Transaction) : Except Error SignedTransaction :=
  if t.encodable then
    match Ecdsa.sign Curve.secp256k1 key t.digest with
    | some g => .ok (answer t g)
    | none => .error .couldNotSign
  else .error (.foreign .unserializable)

/-- Signs a transaction, given as its members, with a private key text. -/
def signWith (text : String) (tx : Value) : Except Error SignedTransaction :=
  match Ethereum.unsigned tx with
  | .error e => if e.kind = .missingAttribute then .error e else .error .couldNotSign
  | .ok members =>
      match signingKey? text, Ethereum.Transaction.ofMembers? members with
      | some key, some t => signTransaction key t
      | _, _ => .error .couldNotSign

/-- Marks a key as in use by a signing request. -/
def lock (m : KeyManager) (kid : Value) : KeyManager :=
  { m with locks := if m.locks.has kid then m.locks else m.locks.put kid () }

/-- Signs a registry transaction with a stored Secp256k1 key. -/
def sign (m : KeyManager) (kid tx : Value) : Except Error SignedTransaction × KeyManager :=
  if kid.hashable then
    match m.keys.get? kid, m.privateKeys.get? kid with
    | some k, some text =>
        match k.type with
        | .secp256k1 => (signWith text tx, m.lock kid)
        | .secp256r1 => (.error (.signerWrongType kid.display k.type), m)
    | _, _ => (.error (.signerUnknownKey kid.display), m)
  else (.error .wrongType, m)

/-- Signs transactions one after another. The first failure is the answer. -/
def signMany (m : KeyManager) (kid : Value) : List Value → Except Error (List SignedTransaction) × KeyManager
  | [] => (.ok [], m)
  | tx :: rest =>
      match m.sign kid tx with
      | (.error e, after) => (.error e, after)
      | (.ok t, after) =>
          let (more, last) := after.signMany kid rest
          (more.map (t :: ·), last)

end KeyManager
end EbsiDid
