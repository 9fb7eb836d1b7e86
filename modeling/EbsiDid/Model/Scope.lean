import EbsiDid.Error.Basic

set_option autoImplicit false

/-!
Looking things up by name: a class among those known at some place, and a property along a line of
descent.
-/
namespace EbsiDid.Scope

/-- What is known at some place: names, each with the name that the thing itself has, if it has one. -/
abbrev Names := List (String × Option String)

/-- Things that go by their own names. -/
def ownNames (names : List String) : Names := names.map fun name => (name, some name)

/-- The classes declared where a model is, and those of this library that it builds on. -/
def besides : String → Names
  | "KeyDescriptor" => ownNames keys
  | "ImportableKey" => ownNames keys
  | "Service" => ownNames (shared ++ ["Service", "ServiceSchema"])
  | "SignedTransaction" => ownNames (shared ++ ["SignedTransaction", "SignedTransactionSchema"])
  | "Identifier" =>
      ownNames (shared ++ ["ValidationError", "KeyDescriptor", "KeyDescriptorSchema", "Service",
        "ServiceSchema", "Identifier", "IdentifierSchema"])
  | "NoSchema" => ownNames samples
  | "BadSchema" => ownNames samples
  | "Direct" => ownNames samples
  | "DirectChild" => ownNames samples
  | _ => []
where
  shared : List String := ["BaseModel", "BaseModelSchema"]
  keys : List String :=
    shared ++ ["KeyType", "KeyPurpose", "KeyDescriptor", "KeyDescriptorSchema", "ImportableKey",
      "ImportableKeySchema"]
  samples : List String :=
    shared ++ ["NoSchema", "BadSchema", "Direct", "DirectSchema", "DirectChild", "KeyDescriptor",
      "ImportableKey", "Service", "SignedTransaction", "Identifier"]

/-- The name of what a name stands for, looked for among the known ones. -/
def resolve (name : Value) (known : Names) : Except Error String :=
  match name with
  | .text t =>
      match known.find? fun entry => entry.1 == t with
      | some (_, some shown) => .ok shown
      | some (_, none) => .error .missingAttribute
      | none => .error .wrongType
  | _ => .error .missingAttribute

/-- A property of the first of the descriptions that has it, a null one included. A description is
asked by a text. -/
def property (descriptions : List (Option Record)) (name default : Value) : Except Error Value :=
  match name with
  | .text t => .ok ((descriptions.findSome? fun d => d.bind (Record.get? t)).getD default)
  | _ => if descriptions.any Option.isSome then .error .wrongType else .ok default

end EbsiDid.Scope
