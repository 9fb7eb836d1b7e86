import EbsiDid.Registrar.Directory
import EbsiDid.Registrar.Ebsi

set_option autoImplicit false

/-!
The operations as the `did:ebsi` registrar performs them, called on it or through a directory. What
an operation makes of an identifier is what its trace appends to it, whether it fails or not.
-/
namespace EbsiDid

def Event.appliedTo (e : Event) (i : Identifier) : Identifier :=
  match e with
  | .addedKey k => i.addKey k
  | .addedService s => i.addService s
  | _ => i

/-- The identifier with all that a trace appends to it. -/
def Trace.appliedTo (t : Trace) (i : Identifier) : Identifier := t.foldl (fun i e => e.appliedTo i) i

inductive Answer where
  | identifier (i : Identifier)
  | receipts (values : List Value)
  | receipt (value : Value)
  | done (b : Bool)

/-- What an operation answers, and the identifier afterwards. -/
structure Performed where
  answer : Answer
  identifier : Identifier

namespace EbsiRegistrar

variable {τ : Type}

def perform (reg : EbsiRegistrar) (p : Partners τ) :
    Operation KeyDescriptor Service → Act τ Performed
  | .createIdentifier _ kms nickname spec options => do
      let i ← reg.createIdentifier p kms nickname spec options
      return ⟨.identifier i, i⟩
  | .addKey i key options => do
      let (receipts, after) ← reg.addKey p i key options
      return ⟨.receipts receipts, after⟩
  | .addService i service options => do
      let (receipt, after) ← reg.addService p i service options
      return ⟨.receipt receipt, after⟩
  | .removeKey _ _ _ => Act.fail .removingKeys
  | .removeService _ _ _ => Act.fail .removingServices
  | .updateIdentifier _ _ _ => Act.fail .updatingDocuments
  | .deleteIdentifier i => do
      let b ← deleteIdentifier i
      return ⟨.done b, i⟩

end EbsiRegistrar

/-- Has an operation performed by the registrar that a directory names for it. -/
def Directory.submit {τ : Type} (d : Directory EbsiRegistrar) (p : Partners τ)
    (op : Operation KeyDescriptor Service) : Act τ Performed := do
  let (reg, handed) ← Act.ofExcept (d.dispatch op)
  reg.perform p handed

end EbsiDid
