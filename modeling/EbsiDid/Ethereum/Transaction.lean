import EbsiDid.Ethereum.Quantity
import EbsiDid.Ethereum.Rlp
import EbsiDid.Key.PublicKey

set_option autoImplicit false

/-!
Ethereum transactions of the three kinds that are signed here: legacy ones, ones with an access list,
and ones with a dynamic fee. A transaction is read from its members, hashed without a signature and
encoded with one. Kinds 3 and 4, which carry blobs and authorizations, are left out.
-/
namespace EbsiDid.Ethereum

inductive TransactionKind where
  | legacy
  | accessList
  | dynamicFee
deriving DecidableEq, Repr

namespace TransactionKind

/-- The byte in front of the encoding. Legacy transactions have none. -/
def tag : TransactionKind → Bytes
  | .legacy => []
  | .accessList => [1]
  | .dynamicFee => [2]

/-- The members of an earlier signature. -/
def signatureNames : List String := ["v", "r", "s"]

def needed : TransactionKind → List String
  | .legacy => ["nonce", "gasPrice", "gas"]
  | .accessList => ["nonce", "gasPrice", "gas"]
  | .dynamicFee => ["nonce", "maxPriorityFeePerGas", "maxFeePerGas", "gas"]

def allowed : TransactionKind → List String
  | .legacy => ["nonce", "gasPrice", "gas", "to", "value", "data", "chainId"]
  | .accessList =>
      ["type", "chainId", "nonce", "gasPrice", "gas", "to", "value", "data", "accessList"]
        ++ signatureNames
  | .dynamicFee =>
      ["type", "chainId", "nonce", "maxPriorityFeePerGas", "maxFeePerGas", "gas", "to", "value", "data",
       "accessList"] ++ signatureNames

/-- The kind that the members of a transaction ask for. A number other than 1 and 2 asks for none. -/
def of (tx : Record) : Option TransactionKind :=
  match tx.get? "type" with
  | some (.int 1) => some .accessList
  | some (.int 2) => some .dynamicFee
  | some _ => none
  | none =>
      if tx.has "gasPrice" && tx.has "accessList" then some .accessList
      else if tx.has "maxFeePerGas" || tx.has "maxPriorityFeePerGas" then some .dynamicFee
      else some .legacy

end TransactionKind

/-- An address with the slots of its storage. -/
structure AccessEntry where
  address : Bytes
  slots : List Int

/-- The members of a transaction, read. Quantities may still be negative. -/
structure Transaction where
  kind : TransactionKind
  chainId : Option Int
  nonce : Int
  fees : List Int
  gas : Int
  recipient : Bytes
  value : Int
  data : Bytes
  accessList : List AccessEntry

namespace Transaction

def integer? : Value → Option Int
  | .int n => some n
  | _ => none

def isHexText (chars : List Char) : Bool := chars.all fun c => (Hex.digit? c).isSome

/-- Hexadecimal digits, with a mark or without, and with a zero in front of an odd number of them. -/
def looseHex? (text : String) : Option Bytes :=
  let digits := (Hex.stripMark text).toList
  if isHexText digits then
    Hex.decodeChars (if digits.length % 2 = 0 then digits else '0' :: digits)
  else none

/-- The bytes of a number's shortest hexadecimal text. Zero takes one byte. -/
def numberBytes? (n : Int) : Option Bytes :=
  if n < 0 then none
  else if n = 0 then some [0]
  else some (Encoding.minimalBytes n.toNat)

def dataBytes? : Value → Option Bytes
  | .text s => looseHex? s
  | .int n => numberBytes? n
  | .bool b => some [if b then 1 else 0]
  | _ => none

/-- Forty digits after an optional mark, in letters of any case. -/
def addressBytes? (text : String) : Option Bytes :=
  let digits := (Hex.stripMark text).toList
  if digits.length = 40 ∧ isHexText digits then Hex.decodeChars digits else none

/-- The recipient: nobody, or an address with its checksum. -/
def recipient? : Value → Option Bytes
  | .null => some []
  | .text s =>
      if s = "" then some []
      else do
        let bytes ← addressBytes? s
        if Address.text bytes = s then return bytes else none
  | _ => none

/-- Can a value be a part of an earlier signature? A number other than zero can, and a text of
digits. Only `v` may be zero. -/
def isSignaturePart (name : String) (v : Value) : Bool :=
  match v with
  | .text s =>
      let digits := (Hex.stripMark s).toList
      !digits.isEmpty && isHexText digits
  | .bool true => true
  | .int n => n ≠ 0 || name == "v"
  | _ => name == "v" && v.alike (.int 0)

/-- An earlier signature is looked at, and does not count otherwise. -/
def signatureFits (tx : Record) : Bool :=
  TransactionKind.signatureNames.all fun name =>
    match tx.get? name with
    | some v => isSignaturePart name v
    | none => true

def slot? : Value → Option Int
  | .int n => some n
  | .text s =>
      if Hex.hasMark s.toList && isHexText (s.toList.drop 2) then Number.hexadecimal? s else none
  | _ => none

/-- An entry has these two members alone. Unlike a recipient, its address may be in letters of any case. -/
def accessEntry? : Value → Option AccessEntry
  | .record fields => do
      if fields.length ≠ 2 then none
      let address ← (Record.get "address" fields).text?.bind addressBytes?
      match Record.get "storageKeys" fields with
      | .list slots => do
          let slots ← slots.mapM slot?
          return ⟨address, slots⟩
      | _ => none
  | _ => none

def accessList? : Value → Option (List AccessEntry)
  | .list entries => entries.mapM accessEntry?
  | _ => none

def feeNames : TransactionKind → List String
  | .dynamicFee => ["maxPriorityFeePerGas", "maxFeePerGas"]
  | _ => ["gasPrice"]

/-- The chain: none for a legacy transaction that names none, zero for others. -/
def chain? (kind : TransactionKind) (tx : Record) : Option (Option Int) :=
  match kind, tx.get? "chainId" with
  | .legacy, none => some none
  | .legacy, some .null => some none
  | _, none => some (some 0)
  | _, some v => (integer? v).map some

/-- Reads the members: the needed ones, and no others than those allowed. -/
def ofMembers? (tx : Record) : Option Transaction := do
  let kind ← TransactionKind.of tx
  if !(kind.needed.all fun name => tx.has name) then none
  if !(tx.keys.all fun name => kind.allowed.contains name) then none
  if !signatureFits tx then none
  let chainId ← chain? kind tx
  let nonce ← integer? (tx.get "nonce")
  let fees ← (feeNames kind).mapM fun name => integer? (tx.get name)
  let gas ← integer? (tx.get "gas")
  let recipient ← recipient? (tx.get "to")
  let value ← integer? ((tx.get? "value").getD (.int 0))
  let data ← dataBytes? ((tx.get? "data").getD (.text ""))
  let accessList ← accessList? ((tx.get? "accessList").getD (.list []))
  return ⟨kind, chainId, nonce, fees, gas, recipient, value, data, accessList⟩

/-- Can every number be encoded? Quantities have no sign, and a slot takes 32 bytes. -/
def encodable (t : Transaction) : Bool :=
  (t.chainId.toList ++ t.nonce :: t.gas :: t.value :: t.fees).all (fun n => decide (0 ≤ n))
    && t.accessList.all fun entry => entry.slots.all fun n => decide (0 ≤ n) && decide (Encoding.byteLength n.toNat ≤ 32)

def quantityItem (n : Int) : Rlp := Rlp.nat n.toNat

def accessItem (entry : AccessEntry) : Rlp :=
  .list [.bytes entry.address,
    .list (entry.slots.map fun n => .bytes (Encoding.bigEndian 32 n.toNat))]

/-- The fields that every kind encodes, in order. -/
def commonItems (t : Transaction) : List Rlp :=
  quantityItem t.nonce :: (t.fees.map quantityItem
    ++ [quantityItem t.gas, .bytes t.recipient, quantityItem t.value, .bytes t.data])

def chainItem (t : Transaction) : Rlp := quantityItem (t.chainId.getD 0)

def bodyItems (t : Transaction) : List Rlp :=
  match t.kind with
  | .legacy => t.commonItems
  | _ => t.chainItem :: (t.commonItems ++ [.list (t.accessList.map accessItem)])

/-- What is signed. A legacy transaction for a chain names it where the signature will stand. -/
def signingItems (t : Transaction) : List Rlp :=
  match t.kind, t.chainId with
  | .legacy, some _ => t.bodyItems ++ [t.chainItem, Rlp.nat 0, Rlp.nat 0]
  | _, _ => t.bodyItems

def digest (t : Transaction) : Bytes :=
  Keccak256.digest (t.kind.tag ++ Rlp.encode (.list t.signingItems))

/-- The `v` of a signature: the recovery id, for legacy transactions with an offset by the chain. -/
def signatureV (t : Transaction) (recovery : Nat) : Int :=
  match t.kind, t.chainId with
  | .legacy, none => 27 + recovery
  | .legacy, some c => 35 + 2 * c + recovery
  | _, _ => recovery

def signed (t : Transaction) (r s recovery : Nat) : Bytes :=
  t.kind.tag ++ Rlp.encode
    (.list (t.bodyItems ++ [quantityItem (t.signatureV recovery), Rlp.nat r, Rlp.nat s]))

end Transaction
end EbsiDid.Ethereum
