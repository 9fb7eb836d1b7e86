import EbsiDid.Model.Field

set_option autoImplicit false

/-!
Schemas: the fields of a JSON representation and what becomes of members that no field names. A
schema whose members are themselves records, in lists, nests one level.
-/
namespace EbsiDid.Schema

/-- What becomes of members that no field names. -/
inductive Unknown where
  | refuse
  | drop
  | keep
deriving DecidableEq, Repr

structure Shape (kind : Type) where
  fields : List (Field kind)
  unknown : Unknown

/-- A field of a nesting schema: a simple one, or a list of records. -/
inductive Nesting where
  | simple (kind : FieldKind)
  | records (shape : Shape FieldKind)

variable {kind : Type}

/-- Reads the member of one field. Nothing is the result where a member may be missing. -/
def readField (read : kind → Value → Except Fault Value) (f : Field kind) (data : Record) :
    Except Fault (Option Value) :=
  match data.get? f.key with
  | none => if f.required then .error (.say missingText) else .ok f.default
  | some .null => if f.nullable then .ok (some .null) else .error (.say nullText)
  | some v => (read f.kind v).map some

/-- Reads all fields: the attributes found and the messages, by member. -/
def readFields (read : kind → Value → Except Fault Value) (data : Record) :
    List (Field kind) → Except Error (Record × Record)
  | [] => .ok ([], [])
  | f :: rest =>
      match readField read f data with
      | .error (.escaping e) => .error e
      | .error (.invalid messages) =>
          (readFields read data rest).map fun (good, bad) => (good, (f.key, messages) :: bad)
      | .ok none => readFields read data rest
      | .ok (some v) =>
          (readFields read data rest).map fun (good, bad) => ((f.name, v) :: good, bad)

def Shape.extras (s : Shape kind) (data : Record) : Record :=
  data.filter fun member => !(s.fields.any fun f => f.key == member.1)

/-- Reads a record: its attributes, or all that is wrong with it. -/
def Shape.read (read : kind → Value → Except Fault Value) (s : Shape kind) (unknown : Unknown)
    (v : Value) : Except Fault Record :=
  match v with
  | .record data =>
      match readFields read data s.fields with
      | .error e => .error (.escaping e)
      | .ok (good, bad) =>
          let extras := s.extras data
          let refused := match unknown with
            | .refuse => extras.map fun member => (member.1, Value.list [.text unknownText])
            | _ => []
          let kept := match unknown with
            | .keep => extras
            | _ => []
          if (bad ++ refused).isEmpty then .ok (Record.update good kept)
          else .error (.invalid (.record (bad ++ refused)))
  | _ => .error (.invalid (.record [("_schema", .list [.text "Invalid input type."])]))

/-- Writes the attributes of a record, without those that are null. -/
def Shape.dump (dump : kind → Value → Value) (s : Shape kind) (attributes : Record) : Record :=
  s.fields.filterMap fun f =>
    if f.loadOnly then none
    else
      match attributes.get? f.name with
      | none => none
      | some v =>
          let w := dump f.kind v
          if w.isNull then none else some (f.key, w)

def Nesting.read : Nesting → Value → Except Fault Value
  | .simple k, v => k.read v
  | .records shape, v =>
      readList (notNull fun item => (shape.read FieldKind.read shape.unknown item).map Value.record) v

def dumpRecord (shape : Shape FieldKind) : Value → Value
  | .record attributes => .record (shape.dump FieldKind.dump attributes)
  | v => v

def Nesting.dump : Nesting → Value → Value
  | .simple k, v => k.dump v
  | .records shape, .list items => .list (items.map (dumpRecord shape))
  | .records _, v => v

/-- A shape whose fields are all simple. -/
def Shape.nesting (s : Shape FieldKind) : Shape Nesting where
  fields := s.fields.map fun f => { f with kind := .simple f.kind }
  unknown := s.unknown

end EbsiDid.Schema
