import EbsiDid.Json.Reader
import EbsiDid.Json.Writer
import EbsiDid.Model.Schema
import EbsiDid.Trace.Log

set_option autoImplicit false

/-!
Models: values with a name, a schema, attributes, and a constructor from attributes. All models are
read from JSON, written to JSON, validated and compared in the same way.
-/
namespace EbsiDid

/-- How a type stands as a model. The schema of a model may fail to be found. -/
structure Model (α : Type) where
  name : String
  schema : Except Error (Schema.Shape Schema.Nesting)
  attributes : α → Record
  ofArguments : Record → Except Error α

namespace Model

/-- Arguments of a constructor: every one of them known, and the needed ones there. -/
def checkArguments (needed optional : List String) (arguments : Record) : Except Error Unit :=
  if arguments.keys.all (fun k => needed.contains k || optional.contains k)
      && needed.all (fun k => arguments.has k) then .ok ()
  else .error .wrongType

def readErrorOf : Json.ReadError → Error
  | .malformed => .foreign .malformedJson
  | .tooManyDigits => .badValue

def parse (text : String) : Except Error Value :=
  match Json.read text with
  | .ok v => .ok v
  | .error e => .error (readErrorOf e)

variable {α : Type}

def errorLine (m : Model α) (what : String) : LogLine := ⟨.error, m.name ++ " message " ++ what ++ " error:"⟩

/-- Reads a model from a value, by its schema. -/
def load (m : Model α) (unknown : Option Schema.Unknown) (v : Value) : Reply α :=
  match m.schema with
  | .error e => .silent (.error e)
  | .ok shape =>
      match shape.read Schema.Nesting.read (unknown.getD shape.unknown) v with
      | .ok attributes => .silent (m.ofArguments attributes)
      | .error (.invalid detail) =>
          ⟨.error (.modelInvalid m.name .schemaViolation (some detail)), [m.errorLine "validation"]⟩
      | .error (.escaping e) => .silent (.error e)

/-- Reads a model from a value, or from the JSON that a text holds. -/
def deserialize (m : Model α) (unknown : Option Schema.Unknown) (v : Value) : Reply α :=
  match v with
  | .text s => (Reply.silent (parse s)).bind (m.load unknown)
  | _ => m.load unknown v

def fromJson (m : Model α) (text : String) : Reply α :=
  match parse text with
  | .ok v => m.deserialize none v
  | .error e => ⟨.error (.modelUnreadable m.name e.kind), [m.errorLine "parse"]⟩

def serialize (m : Model α) (a : α) : Reply Record :=
  match m.schema with
  | .ok shape => .silent (.ok (shape.dump Schema.Nesting.dump (m.attributes a)))
  | .error e => ⟨.error (.modelInvalid m.name e.kind none), [m.errorLine "serialization"]⟩

def toJson (m : Model α) (a : α) : Reply String :=
  (m.serialize a).map fun fields => Json.write Json.spaced (.record fields)

/-- Does the written form pass the schema? -/
def validate (m : Model α) (a : α) : Reply Unit :=
  match m.schema with
  | .error e => .silent (.error e)
  | .ok shape =>
      (m.serialize a).bind fun fields =>
        match shape.read Schema.Nesting.read shape.unknown (.record fields) with
        | .ok _ => .silent (.ok ())
        | .error (.invalid detail) => .silent (.error (.schemaViolation detail))
        | .error (.escaping e) => .silent (.error e)

/-- Models are equal when their written forms are. -/
def same (m : Model α) (a b : α) : Reply Bool :=
  (m.serialize a).bind fun left =>
    (m.serialize b).map fun right => (Value.record left).alike (.record right)

/-- The text of a model in a message: its name and its attributes. -/
def shown (name : String) (parts : List (String × String)) : String :=
  "<" ++ name ++ "(" ++ Text.joined ", " (parts.map fun part => part.1 ++ "=" ++ part.2) ++ ")>"

end Model
end EbsiDid
