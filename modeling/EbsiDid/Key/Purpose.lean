set_option autoImplicit false

/-!
The verification relationships that a key can serve, and sets of them. A set is its membership test.
It leaves the order of its members open; wherever they are shown or written one by one, they stand in order of name,
as in `toList`, which is a convention of this library.
-/
namespace EbsiDid

inductive Purpose where
  | capabilityInvocation
  | authentication
  | assertionMethod
  | keyAgreement
  | capabilityDelegation
deriving DecidableEq, Repr, Inhabited

namespace Purpose

/-- In the order in which the registry's vocabulary lists them. -/
def all : List Purpose :=
  [.capabilityInvocation, .authentication, .assertionMethod, .keyAgreement, .capabilityDelegation]

def name : Purpose → String
  | .capabilityInvocation => "capabilityInvocation"
  | .authentication => "authentication"
  | .assertionMethod => "assertionMethod"
  | .keyAgreement => "keyAgreement"
  | .capabilityDelegation => "capabilityDelegation"

def label : Purpose → String
  | .capabilityInvocation => "CAPABILITY_INVOCATION"
  | .authentication => "AUTHENTICATION"
  | .assertionMethod => "ASSERTION_METHOD"
  | .keyAgreement => "KEY_AGREEMENT"
  | .capabilityDelegation => "CAPABILITY_DELEGATION"

def ofName? (text : String) : Option Purpose := all.find? fun p => text == p.name

/-- In the order of their names. -/
def sorted : List Purpose :=
  [.assertionMethod, .authentication, .capabilityDelegation, .capabilityInvocation, .keyAgreement]

theorem mem_all (p : Purpose) : p ∈ all := by cases p <;> decide

theorem mem_sorted (p : Purpose) : p ∈ sorted := by cases p <;> decide

theorem ofName?_name (p : Purpose) : ofName? p.name = some p := by cases p <;> decide +kernel

end Purpose

structure PurposeSet where
  has : Purpose → Bool

namespace PurposeSet

def empty : PurposeSet := ⟨fun _ => false⟩

def ofList (purposes : List Purpose) : PurposeSet := ⟨fun p => purposes.contains p⟩

def toList (s : PurposeSet) : List Purpose := Purpose.sorted.filter s.has

def isEmpty (s : PurposeSet) : Bool := s.toList.isEmpty

def subset (s t : PurposeSet) : Bool := Purpose.all.all fun p => !s.has p || t.has p

def names (s : PurposeSet) : List String := s.toList.map Purpose.name

instance : Membership Purpose PurposeSet := ⟨fun s p => s.has p = true⟩

theorem ext {s t : PurposeSet} (same : ∀ p, s.has p = t.has p) : s = t := by
  obtain ⟨f⟩ := s
  obtain ⟨g⟩ := t
  have equal : f = g := funext same
  rw [equal]

theorem has_ofList (purposes : List Purpose) (p : Purpose) :
    (ofList purposes).has p = true ↔ p ∈ purposes := by
  simp [ofList]

theorem mem_toList (s : PurposeSet) (p : Purpose) : p ∈ s.toList ↔ s.has p = true := by
  simp [toList, Purpose.mem_sorted]

theorem ofList_toList (s : PurposeSet) : ofList s.toList = s := by
  apply ext
  intro p
  rw [Bool.eq_iff_iff, has_ofList, mem_toList]

end PurposeSet
end EbsiDid
