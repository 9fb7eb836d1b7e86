import EbsiDid.Model.Identifier

set_option autoImplicit false

/-!
Small models beside those of the registrar: one with a single optional text and no room for unknown
members, a model that inherits its description, and one whose schema cannot be found.
-/
namespace EbsiDid

/-- A model with a tag. An inheriting one reads as the model that it inherits from. -/
structure Tagged where
  name : String
  tag : Value

namespace Tagged

open Schema

def shape : Shape Nesting where
  fields := [.optional "tag" "tag" (.simple .text)]
  unknown := .refuse

def ofArguments (name : String) (a : Record) : Except Error Tagged := do
  Model.checkArguments [] ["tag"] a
  return ⟨name, a.get "tag"⟩

def model (name : String) : Model Tagged where
  name := name
  schema := .ok shape
  attributes := fun t => [("tag", t.tag)]
  ofArguments := ofArguments "Direct"

end Tagged

/-- A model without any schema takes no arguments, and cannot be made without them either. -/
def undescribed (name : String) (a : Record) : Except Error Unit := do
  Model.checkArguments [] [] a
  .error (.noSchemaClass name)

def unresolvedModel (name : String) : Model Unit where
  name := name
  schema := .error .wrongType
  attributes := fun _ => []
  ofArguments := fun _ => .ok ()

/-- A model of any class. -/
inductive AnyModel where
  | key (k : KeyDescriptor)
  | importable (k : ImportableKey)
  | service (s : Service)
  | signed (t : SignedTransaction)
  | identifier (i : Identifier)
  | tagged (t : Tagged)
  | unresolved

namespace AnyModel

/-- A class of models with one of its members. -/
structure Member where
  α : Type
  model : Model α
  value : α

def member : AnyModel → Member
  | .key k => ⟨_, KeyDescriptor.model, k⟩
  | .importable k => ⟨_, ImportableKey.model, k⟩
  | .service s => ⟨_, Service.model, s⟩
  | .signed t => ⟨_, SignedTransaction.model, t⟩
  | .identifier i => ⟨_, Identifier.model, i⟩
  | .tagged t => ⟨_, Tagged.model t.name, t⟩
  | .unresolved => ⟨_, unresolvedModel "BadSchema", ()⟩

def attributes (x : AnyModel) : Record := x.member.model.attributes x.member.value
def serialize (x : AnyModel) : Reply Record := x.member.model.serialize x.member.value
def toJson (x : AnyModel) : Reply String := x.member.model.toJson x.member.value
def validate (x : AnyModel) : Reply Unit := x.member.model.validate x.member.value

def quoted : AnyModel → String
  | .key k => k.quoted
  | .importable k => k.quoted
  | .service s => s.quoted
  | .signed t => t.quoted
  | .identifier i => i.quoted
  | .tagged t => Model.shown t.name [("tag", t.tag.quoted)]
  | .unresolved => Model.shown "BadSchema" []

/-- The names of the schema and of the model that it makes. -/
def schemaNames : AnyModel → Except Error (String × String)
  | .tagged _ => .ok ("DirectSchema", "Direct")
  | .unresolved => .error .wrongType
  | x => .ok (x.member.model.name ++ "Schema", x.member.model.name)

/-- How a model is made: from a value, from JSON, or from arguments. -/
inductive Source where
  | value (unknown : Option Schema.Unknown) (v : Value)
  | json (v : Value)
  | arguments (a : Record)

def makeWith {α : Type} (m : Model α) (init : Record → Except Error α) : Source → Reply α
  | .value unknown v => m.deserialize unknown v
  | .json (.text text) => m.fromJson text
  | .json _ => .silent (.error .wrongType)
  | .arguments a => .silent (init a)

/-- Makes a model of a class by name. -/
def make (name : String) (source : Source) : Reply AnyModel :=
  match name with
  | "KeyDescriptor" => (makeWith KeyDescriptor.model KeyDescriptor.ofArguments source).map key
  | "ImportableKey" => (makeWith ImportableKey.model ImportableKey.ofArguments source).map importable
  | "Service" => (makeWith Service.model Service.ofArguments source).map service
  | "SignedTransaction" =>
      (makeWith SignedTransaction.model SignedTransaction.ofArguments source).map signed
  | "Identifier" => (makeWith Identifier.model Identifier.ofArguments source).map identifier
  | "BadSchema" =>
      (makeWith (unresolvedModel name) (Model.checkArguments [] []) source).map fun _ => unresolved
  | "NoSchema" =>
      (makeWith (unresolvedModel name) (undescribed name) source).map fun _ => unresolved
  | _ => (makeWith (Tagged.model name) (Tagged.ofArguments name) source).map tagged

/-- Models are equal when they are of one class and their written forms are equal. -/
def same (x y : AnyModel) : Reply Bool :=
  match x, y with
  | .key a, .key b => KeyDescriptor.model.same a b
  | .importable a, .importable b => ImportableKey.model.same a b
  | .service a, .service b => Service.model.same a b
  | .signed a, .signed b => SignedTransaction.model.same a b
  | .identifier a, .identifier b => Identifier.model.same a b
  | .tagged a, .tagged b =>
      if a.name = b.name then (Tagged.model a.name).same a b else .silent (.ok false)
  | .unresolved, .unresolved => (unresolvedModel "BadSchema").same () ()
  | _, _ => .silent (.ok false)

/-- Does the JSON of a model read back as an equal one? -/
def roundTrips (x : AnyModel) : Reply Bool :=
  x.toJson.bind fun text => (make x.member.model.name (.json (.text text))).bind fun y => y.same x

end AnyModel
end EbsiDid
