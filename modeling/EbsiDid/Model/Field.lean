import EbsiDid.Json.Display
import EbsiDid.Key.Type
import EbsiDid.Key.Purpose
import EbsiDid.Error.Basic

set_option autoImplicit false

/-!
Fields of a JSON representation: the name of the attribute and of the JSON member, what is required,
and which values are taken. Reading a field gives a value, messages about what is wrong with it, or
an error that is no matter of validation.
-/
namespace EbsiDid.Schema

inductive Fault where
  | invalid (messages : Value)
  | escaping (e : Error)

def Fault.say (text : String) : Fault := .invalid (.list [.text text])

/-- Kinds of simple fields. -/
inductive FieldKind where
  | text
  | flag
  | anything
  | keyType
  | purposeNames
  | purposeList
deriving DecidableEq, Repr

structure Field (kind : Type) where
  name : String
  key : String
  required : Bool
  nullable : Bool
  loadOnly : Bool
  default : Option Value
  kind : kind

namespace Field

variable {kind : Type}

def needed (name key : String) (k : kind) : Field kind :=
  ⟨name, key, true, false, false, none, k⟩

def optional (name key : String) (k : kind) : Field kind :=
  ⟨name, key, false, false, false, none, k⟩

def orNull (name key : String) (k : kind) : Field kind :=
  ⟨name, key, false, true, false, none, k⟩

def withDefault (name key : String) (default : Value) (k : kind) : Field kind :=
  ⟨name, key, false, false, false, some default, k⟩

/-- Read, but never written. -/
def secret (name key : String) (k : kind) : Field kind :=
  ⟨name, key, true, false, true, none, k⟩

end Field

def missingText : String := "Missing data for required field."
def nullText : String := "Field may not be null."
def unknownText : String := "Unknown field."

def truthySpellings : List String :=
  ["t", "T", "true", "True", "TRUE", "on", "On", "ON", "y", "Y", "yes", "Yes", "YES", "1"]

def falsySpellings : List String :=
  ["f", "F", "false", "False", "FALSE", "off", "Off", "OFF", "n", "N", "no", "No", "NO", "0"]

/-- The truth value that a value spells. -/
def flag? (v : Value) : Option Bool :=
  match v with
  | .text s =>
      if truthySpellings.contains s then some true
      else if falsySpellings.contains s then some false
      else none
  | _ =>
      if v.alike (.int 1) then some true
      else if v.alike (.int 0) then some false
      else none

def purposeChoices : String := Text.joined ", " (Purpose.all.map Purpose.name)

/-- Names in whatever can be gone through. The refusal is worded from the choices; the members refused are taken to have
a text, as integers within the digits of base ten do. -/
def readPurposeNames (v : Value) : Except Fault Value :=
  match v.items? with
  | none => .error (.escaping .wrongType)
  | some items =>
      if items.all fun item => (item.text?.bind Purpose.ofName?).isSome then .ok v
      else .error (.say ("One or more of the choices you made was not in: " ++ purposeChoices ++ "."))

/-- Messages by position, for the members that were refused. -/
def readEach (read : Value → Except Fault Value) : Nat → List Value → Except Error (List Value × Record)
  | _, [] => .ok ([], [])
  | i, v :: rest =>
      match read v with
      | .ok w => (readEach read (i + 1) rest).map fun (good, bad) => (w :: good, bad)
      | .error (.invalid messages) =>
          (readEach read (i + 1) rest).map fun (good, bad) => (good, (Number.text i, messages) :: bad)
      | .error (.escaping e) => .error e

def readList (read : Value → Except Fault Value) (v : Value) : Except Fault Value :=
  match v with
  | .list items =>
      match readEach read 0 items with
      | .ok (good, []) => .ok (.list good)
      | .ok (_, bad) => .error (.invalid (.record bad))
      | .error e => .error (.escaping e)
  | _ => .error (.say "Not a valid list.")

def readText : Value → Except Fault Value
  | .text s => .ok (.text s)
  | _ => .error (.say "Not a valid string.")

/-- A member of a list is never null. -/
def notNull (read : Value → Except Fault Value) (v : Value) : Except Fault Value :=
  if v.isNull then .error (.say nullText) else read v

def readPurposeName (v : Value) : Except Fault Value := do
  let name ← readText v
  if (name.text?.bind Purpose.ofName?).isSome then return name
  else .error (.say ("Must be one of: " ++ purposeChoices ++ "."))

def keyTypeChoices : String := Text.joined ", " (KeyType.all.map KeyType.name)

def FieldKind.read : FieldKind → Value → Except Fault Value
  | .text, v => readText v
  | .flag, v =>
      match flag? v with
      | some b => .ok (.bool b)
      | none => .error (.say "Not a valid boolean.")
  | .anything, v => .ok v
  | .keyType, v =>
      match v.text?.bind KeyType.ofExactName? with
      | some t => .ok (.text t.name)
      | none => .error (.say ("Must be one of: " ++ keyTypeChoices ++ "."))
  | .purposeNames, v => readPurposeNames v
  | .purposeList, v => readList (notNull readPurposeName) v

/-- The text of a value that is not null. -/
def dumpText : Value → Value
  | .null => .null
  | v => .text v.display

/-- A purpose as the name of its member in the vocabulary. -/
def dumpPurposeLabel (v : Value) : Value :=
  match v.text?.bind Purpose.ofName? with
  | some p => .text ("KeyPurpose." ++ p.label)
  | none => v

def FieldKind.dump : FieldKind → Value → Value
  | .text, v => dumpText v
  | .purposeList, .list items => .list (items.map dumpPurposeLabel)
  | _, v => v

end EbsiDid.Schema
