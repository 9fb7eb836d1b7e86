import EbsiDid.Error.Basic
import EbsiDid.Json.Conversion
import EbsiDid.Json.Members
import EbsiDid.Text.Point

set_option autoImplicit false

/-!
Settings: entries by name, in order of insertion, read as they are or as truth values, integers,
numbers or texts. Two keys are one when they are equal as values.
-/
namespace EbsiDid

structure Settings where
  entries : Entries Value

namespace Settings

def empty : Settings := ⟨[]⟩

def get? (s : Settings) (key : Value) : Option Value := s.entries.get? key

def put (s : Settings) (key value : Value) : Settings := ⟨s.entries.put key value⟩

def remove (s : Settings) (key : Value) : Settings := ⟨s.entries.erase key⟩

/-- Puts entries one after another, as they are. -/
def update (s : Settings) (later : Entries Value) : Settings := ⟨s.entries.update later⟩

def ofEntries (entries : Entries Value) : Settings := empty.update entries

def ofRecord (r : Record) : Settings := ofEntries (Entries.ofRecord r)

/-- Settings from a record or from pairs. What is empty makes none. -/
def ofValue (v : Value) : Except Error Settings := (Entries.ofValue v).map ofEntries

/-- The value of the first name that has one. -/
def getValue (s : Settings) (names : List Value) (default : Value) : Except Error Value :=
  match names with
  | [] => .ok default
  | name :: rest =>
      if name.hashable then
        match s.get? name with
        | some v => .ok v
        | none => getValue s rest default
      else .error .wrongType

/-- What counts, apart from the words for false. -/
def truthOf (v : Value) : Bool :=
  v.truthy && !(v.alike (.text "false") || v.alike (.text "False") || v.alike (.text "0"))

def getBool (s : Settings) (names : List Value) (default : Value) : Except Error Value := do
  let v ← s.getValue names default
  return if v.isNull then .null else .bool (truthOf v)

/-- A failed conversion is reported under the first name, with the value as it is quoted; a number out
of range is not caught. A value in which an integer has too many digits cannot be quoted; one that nests deep can. -/
def conversionError (report : String → String → Kind → Error) (names : List Value) (v : Value)
    (cause : Kind) : Error :=
  if cause = .overflow then .foreign .overflow
  else
    match names with
    | [] => .foreign .badIndex
    | name :: _ =>
        if name.quotable && v.quotable then report name.display v.quoted cause
        else .foreign .badValue

def getInt (s : Settings) (names : List Value) (default : Value) : Except Error Value := do
  let v ← s.getValue names default
  if v.isNull then return .null
  match v.toInteger with
  | .ok n => return .int n
  | .error cause => .error (conversionError .settingNotInteger names v cause)

def getFloat (s : Settings) (names : List Value) (default : Value) : Except Error Value := do
  let v ← s.getValue names default
  if v.isNull then return .null
  match v.toReal with
  | .ok x => return .real x
  | .error cause => .error (conversionError .settingNotNumber names v cause)

def getText (s : Settings) (names : List Value) (default : Value) : Except Error Value := do
  let v ← s.getValue names default
  return if v.isNull then .null else .text v.display

/-- Sets a value under a name, which has to be a text that is not empty. -/
def setValue (s : Settings) (name value : Value) : Except Error Settings :=
  match name with
  | .text t => if t = "" then .error .settingNameEmpty else .ok (s.put name value)
  | _ => .error .settingNameNotText

def contains (s : Settings) (key : Value) : Except Error Bool :=
  if key.hashable then .ok (s.get? key).isSome else .error .wrongType

def setDefault (s : Settings) (name value : Value) : Except Error Settings := do
  if ← s.contains name then return s
  s.setValue name value

def clearValue (s : Settings) (name : Value) : Except Error Settings :=
  if name.hashable then .ok (s.remove name) else .error .wrongType

/-- The value at an index, which has to be a text. -/
def index (s : Settings) (key : Value) : Except Error Value :=
  match key with
  | .text t =>
      match s.get? key with
      | some v => .ok v
      | none => .error (.undefinedIndex t)
  | _ => .error .indexNotText

/-- The value at an index, or a default. -/
def getOr (s : Settings) (key default : Value) : Except Error Value :=
  match s.index key with
  | .error (.undefinedIndex _) => .ok default
  | r => r

/-- Takes the value at an index out. -/
def pop (s : Settings) (key : Value) (default : Option Value) : Except Error (Value × Settings) :=
  match s.index key, default with
  | .ok v, _ => .ok (v, s.remove key)
  | .error (.undefinedIndex _), some v => .ok (v, s)
  | .error e, _ => .error e

/-- The value at an index, which is set to the default first if there is none. -/
def getOrSet (s : Settings) (key default : Value) : Except Error (Value × Settings) :=
  match s.index key with
  | .ok v => .ok (v, s)
  | .error (.undefinedIndex _) => (s.setValue key default).map fun t => (default, t)
  | .error e => .error e

/-- The entries, read back one by one. -/
def items (s : Settings) : Except Error (Entries Value) :=
  s.entries.mapM fun entry => (s.index entry.1).map fun v => (entry.1, v)

def quoted (s : Settings) : String :=
  "<Settings(\x7b" ++ Text.joined ", " (s.entries.map fun entry =>
    entry.1.quoted ++ ": " ++ entry.2.quoted) ++ "\x7d)>"

/-- The environment variables that are settings, with the names they get. -/
def environmentNames : List (String × String) :=
  [("EBSI_ENVIRONMENT", "ebsi.environment"), ("EBSI_VERSION", "ebsi.version"),
   ("EBSI_REGISTRY_HOST", "ebsi.registry_host"), ("EBSI_DEFAULT_KMS", "ebsi.default_kms"),
   ("EBSI_RPC_TIMEOUT", "ebsi.rpc_timeout"), ("LEDGER_DISABLED", "ledger.disabled")]

/-- Settings from environment variables. Empty ones do not count. -/
def ofEnvironment (environment : Record) : Settings :=
  ofEntries (environmentNames.filterMap fun (variableName, key) =>
    match environment.get variableName with
    | .null => none
    | .text "" => none
    | v => some (.text key, v))

/-- Surrogates that stand for a byte. A text of bytes holds no others. -/
def isLooseByte (point : Nat) : Bool := 0xdc80 ≤ point && point ≤ 0xdcff

/-- Can a value be that of a variable of a process? It has to be a text of bytes without a zero. -/
def checkVariable (v : Value) : Except Error Unit :=
  match v with
  | .text s =>
      let points := Text.points s.toList
      if points.any fun p => Text.isSurrogate p && !isLooseByte p then .error (.foreign .unencodable)
      else if points.contains 0 then .error .badValue
      else .ok ()
  | _ => .error .wrongType

/-- As `ofEnvironment`, for an environment by value: none at all is an empty one. -/
def ofEnvironmentValue (v : Value) : Except Error Settings :=
  match v with
  | .null => .ok (ofEnvironment [])
  | .record fields => .ok (ofEnvironment fields)
  | _ => .error .missingAttribute

end Settings
end EbsiDid
