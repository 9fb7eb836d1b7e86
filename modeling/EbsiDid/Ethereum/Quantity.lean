import EbsiDid.Encoding.Hex
import EbsiDid.Error.Basic
import EbsiDid.Json.Conversion
import EbsiDid.Number.Integer

set_option autoImplicit false

/-!
The registry's unsigned transactions in the form that signing takes: quantities are integers, the
limit of gas goes under its short name, and the sender is left out.
-/
namespace EbsiDid.Ethereum

def quantityNames : List String :=
  ["nonce", "chainId", "gas", "gasPrice", "value", "maxFeePerGas", "maxPriorityFeePerGas", "type"]

/-- A text in base sixteen if it is marked so, in base ten otherwise. All else stays as it is. -/
def quantity (v : Value) : Except Error Value :=
  match v with
  | .text s =>
      match if Hex.hasMark s.toList then Number.hexadecimal? s else Number.decimal? s with
      | some n => .ok (.int n)
      | none => .error .badValue
  | _ => .ok v

/-- Moves the limit of gas, which wins over a value already there. -/
def renameGas (tx : Record) : Record :=
  match tx.get? "gasLimit" with
  | some limit => (tx.erase "gasLimit").put "gas" limit
  | none => tx

/-- Reads the named quantities that are there. -/
def readQuantities : List String → Record → Except Error Record
  | [], tx => .ok tx
  | name :: rest, tx =>
      match tx.get? name with
      | none => readQuantities rest tx
      | some v => do
          let n ← quantity v
          readQuantities rest (tx.put name n)

def unsignedOf (tx : Record) : Except Error Record :=
  readQuantities quantityNames (renameGas (tx.erase "from"))

def unsigned (tx : Value) : Except Error Record :=
  match tx with
  | .record fields => unsignedOf fields
  | _ => .error .missingAttribute

/-- Quantities that base ten can name: texts in base sixteen may be of any length, and what comes of
them is not to have more digits than are read. -/
def withinDigits (tx : Record) : Except Error Record :=
  let fits (v : Value) : Bool :=
    match v with
    | .int n => decide (n.natAbs < Nat.pow 10 Number.digitLimit)
    | _ => true
  if tx.all fun member => fits member.2 then .ok tx else .error .badValue

/-- A signature's `v` without chain and kind of the transaction: 27 plus the recovery id. -/
def recoveryV (v : Int) : Int :=
  if 35 ≤ v then (v - 35) % 2 + 27
  else if v = 27 ∨ v = 28 then v
  else v % 2 + 27

/-- As `recoveryV`, for a double. -/
def recoveryReal (v : Binary64) : Binary64 :=
  let above := !(v.reading.less (.finite false 35 0)) && !v.isNan
  if above then ((v.plus (-35)).moduloTwo).plus 27
  else if v.toInt? = some 27 ∨ v.toInt? = some 28 then v
  else v.moduloTwo.plus 27

/-- As `recoveryV`, for any value. Only a number can be a `v`. -/
def recoveryOf (v : Value) : Except Error Value :=
  match v with
  | .real x => .ok (.real (recoveryReal x))
  | _ =>
      match v.whole? with
      | some n => .ok (.int (recoveryV n))
      | none => .error .wrongType

end EbsiDid.Ethereum
