import EbsiDid.Proofs.Key.Assignment
import Mathlib.Tactic.ByContra

set_option autoImplicit false

/-!
What a request for the purposes of a key comes to, from the key type and the names as they are given. It is refused
for an unknown type or name and for purposes that the type does not admit; otherwise the key gets the purposes that are
named, or the usual ones of its type if none is.
-/
namespace EbsiDid

namespace KeyType

-- In any case of its letters.
def Named (type : KeyType) (v : Value) : Prop := ∃ s, v = .text s ∧ Text.lower s = Text.lower type.name

theorem of_name_iff {s : String} {type : KeyType} : ofName? s = some type ↔ Text.lower s = Text.lower type.name := by
  constructor
  · intro found
    have same := List.find?_some found
    exact beq_iff_eq.mp same
  · intro same
    have spelled : ofName? s = ofName? type.name := by simp only [ofName?, Text.sameLetters, same]
    rw [spelled, ofName?_name]

theorem of_value_iff {v : Value} {type : KeyType} : ofValue v = .ok type ↔ type.Named v := by
  cases v with
  | text s =>
      have named : Named type (.text s) ↔ ofName? s = some type := by
        rw [of_name_iff, Named]
        simp
      rw [named, ofValue]
      cases ofName? s <;> simp
  | _ => simp [ofValue, Named]

theorem named_alone {v : Value} {type other : KeyType} (named : type.Named v) (too : other.Named v) : other = type := by
  have same := (of_value_iff.mpr too).symm.trans (of_value_iff.mpr named)
  exact Except.ok.inj same

end KeyType

namespace PurposeSet

/-! ### What a type admits -/

def Admits (type : KeyType) (s : PurposeSet) : Prop :=
  match type with
  | .secp256k1 => .capabilityInvocation ∈ s
  | .secp256r1 => ∀ p ∈ s, p = .assertionMethod ∨ p = .authentication

theorem mem_of_list (ps : List Purpose) (p : Purpose) : p ∈ ofList ps ↔ p ∈ ps := has_ofList ps p

theorem subset_iff (s t : PurposeSet) : s.subset t = true ↔ ∀ p ∈ s, p ∈ t := by
  rw [subset, List.all_eq_true]
  refine forall_congr' fun p => ?_
  change (p ∈ Purpose.all → _) ↔ (s.has p = true → t.has p = true)
  cases s.has p <;> simp [Purpose.mem_all]

theorem allowed_iff {type : KeyType} {s : PurposeSet} : allowed type s = .ok () ↔ Admits type s := by
  cases type with
  | secp256k1 =>
      change (if s.has .capabilityInvocation then _ else _) = _ ↔ s.has .capabilityInvocation = true
      cases s.has .capabilityInvocation <;> simp
  | secp256r1 =>
      have within : s.subset secp256r1Purposes = true ↔ Admits .secp256r1 s := by
        rw [subset_iff]
        simp only [secp256r1Purposes, mem_of_list, Admits]
        simp
      rw [← within, allowed]
      cases s.subset secp256r1Purposes <;> simp

theorem default_admitted (type : KeyType) : Admits type (defaultFor type) := by
  cases type with
  | secp256k1 => exact rfl
  | secp256r1 =>
      intro p member
      simpa using (mem_of_list _ p).mp member

theorem list_empty_iff (ps : List Purpose) : (ofList ps).isEmpty = true ↔ ps = [] := by
  rw [isEmpty, List.isEmpty_iff, List.eq_nil_iff_forall_not_mem, List.eq_nil_iff_forall_not_mem]
  simp only [mem_toList, has_ofList]

theorem nonempty_iff (s : PurposeSet) : s.isEmpty = false ↔ ∃ p, p ∈ s := by
  rw [isEmpty, List.isEmpty_eq_false_iff_exists_mem]
  exact exists_congr fun p => mem_toList s p

/-! ### Requests -/

-- Nothing, a list of names, or a single name. An empty text names nothing.
inductive Request where
  | nothing
  | list (names : List Value)
  | single (name : String)

namespace Request

def value : Request → Value
  | .nothing => .null
  | .list names => .list names
  | .single name => .text name

def names : Request → List Value
  | .nothing => []
  | .list names => names
  | .single name => if name = "" then [] else [.text name]

-- Two requests for the same, whatever the order and the repetitions.
def SameNames (r other : Request) : Prop := ∀ name, name ∈ r.names ↔ name ∈ other.names

-- Every purpose of a set is named, and nothing else.
def Lists (r : Request) (s : PurposeSet) : Prop := ∀ name, name ∈ r.names ↔ ∃ p ∈ s, name = .text p.name

end Request

theorem of_request (r : Request) : ofOptional r.value = (Purpose.ofValues r.names).map ofList := by
  cases r with
  | nothing => rfl
  | list names => cases names <;> rfl
  | single name =>
      by_cases blank : name = ""
      · subst blank
        rfl
      · have counts : (Value.text name).truthy = true := by simp [Value.truthy, blank]
        rw [Request.value, Request.names, if_neg blank, ofOptional, if_pos counts]
        rfl

/-! ### What comes of a request -/

-- Why purposes are refused.
inductive Refused (type : Value) (names : List Value) : Prop where
  | unknownType : (∀ t : KeyType, ¬ t.Named type) → Refused type names
  | unknownPurpose (name : Value) : name ∈ names → (∀ p : Purpose, name ≠ .text p.name) → Refused type names
  | uncontrolling : KeyType.secp256k1.Named type → names ≠ [] →
      .text Purpose.capabilityInvocation.name ∉ names → Refused type names
  | excessive (name : Value) : KeyType.secp256r1.Named type → name ∈ names →
      name ≠ .text Purpose.assertionMethod.name → name ≠ .text Purpose.authentication.name → Refused type names

-- What is assigned: the set that is named, if the type admits it, or what is usual if nothing is named.
def Comes (type : KeyType) (names : List Value) (s : PurposeSet) : Prop :=
  (∀ name ∈ names, ∃ p : Purpose, name = .text p.name) ∧
    ((names = [] ∧ s = defaultFor type) ∨
      (names ≠ [] ∧ (∀ p, p ∈ s ↔ .text p.name ∈ names) ∧ Admits type s))

theorem comes_alike {type : KeyType} {names others : List Value} (same : ∀ name, name ∈ names ↔ name ∈ others)
    (s : PurposeSet) : Comes type names s ↔ Comes type others s := by
  have empty : names = [] ↔ others = [] := by
    simp only [List.eq_nil_iff_forall_not_mem, same]
  simp only [Comes, same, ne_eq, empty]

theorem assign_known {type : KeyType} {r : Request} {ps : List Purpose} (known : r.names.mapM Purpose.ofValue? = some ps) :
    assign type r.value =
      if ps = [] then .ok (defaultFor type) else (allowed type (ofList ps)).map fun _ => ofList ps := by
  have requested : ofOptional r.value = .ok (ofList ps) := by
    rw [of_request, Purpose.ofValues, known]
    rfl
  rw [assign_requested requested]
  simp only [list_empty_iff]

theorem mem_named {names : List Value} {ps : List Purpose} (known : names.mapM Purpose.ofValue? = some ps) (p : Purpose) :
    p ∈ ofList ps ↔ .text p.name ∈ names := by
  rw [mem_of_list, Purpose.known_iff.mp known, List.mem_map]
  simp only [Purpose.name_inj, exists_eq_right]

theorem comes_iff {type : KeyType} {names : List Value} {ps : List Purpose}
    (known : names.mapM Purpose.ofValue? = some ps) (s : PurposeSet) :
    Comes type names s ↔ (ps = [] ∧ s = defaultFor type) ∨ (ps ≠ [] ∧ s = ofList ps ∧ Admits type s) := by
  have all := Purpose.all_known_iff.mpr ⟨ps, known⟩
  have empty : names = [] ↔ ps = [] := by rw [Purpose.known_iff.mp known, List.map_eq_nil_iff]
  have set : (∀ p, p ∈ s ↔ .text p.name ∈ names) ↔ s = ofList ps := by
    simp only [← mem_named known]
    exact ⟨fun same => ext fun p => Bool.eq_iff_iff.mpr (same p), fun same p => by rw [same]⟩
  rw [Comes, ne_eq, empty, set]
  exact and_iff_right all

theorem assign_iff {type : KeyType} {r : Request} {s : PurposeSet} :
    assign type r.value = .ok s ↔ Comes type r.names s := by
  cases known : r.names.mapM Purpose.ofValue? with
  | none =>
      have refused : ofOptional r.value = .error (.unknownPurpose (Value.list r.names).quoted) := by
        rw [of_request, Purpose.ofValues, known]
        rfl
      rw [assignment_refused_iff.mpr (.inl refused)]
      refine ⟨nofun, fun comes => ?_⟩
      obtain ⟨ps, found⟩ := Purpose.all_known_iff.mp comes.1
      rw [known] at found
      cases found
  | some ps =>
      rw [assign_known known, comes_iff known]
      by_cases nothing : ps = []
      · simp [nothing, eq_comm]
      · have admitted := @allowed_iff type (ofList ps)
        rw [if_neg nothing]
        cases fits : allowed type (ofList ps) with
        | error e =>
            rw [fits] at admitted
            refine ⟨nofun, ?_⟩
            rintro (⟨absent, _⟩ | ⟨_, rfl, admits⟩)
            · exact absurd absent nothing
            · cases admitted.mpr admits
        | ok _ =>
            constructor
            · intro same
              cases same
              exact .inr ⟨nothing, rfl, admitted.mp fits⟩
            · rintro (⟨absent, _⟩ | ⟨_, rfl, _⟩)
              · exact absurd absent nothing
              · rfl

theorem assign_to_iff {v : Value} {r : Request} {s : PurposeSet} :
    assignTo v r.value = .ok s ↔ ∃ type : KeyType, type.Named v ∧ Comes type r.names s := by
  simp only [← assign_iff, ← KeyType.of_value_iff]
  rw [assignTo]
  cases KeyType.ofValue v <;> simp

theorem refused_iff {v : Value} {names : List Value} :
    Refused v names ↔ ¬ ∃ s, ∃ type : KeyType, type.Named v ∧ Comes type names s := by
  constructor
  · rintro refused ⟨s, type, named, known, outcome⟩
    cases refused with
    | unknownType unnamed => exact unnamed type named
    | unknownPurpose name member unknown =>
        obtain ⟨p, same⟩ := known name member
        exact unknown p same
    | uncontrolling controls asked unnamed =>
        obtain rfl := KeyType.named_alone controls named
        obtain ⟨nothing, _⟩ | ⟨_, set, admits⟩ := outcome
        · exact asked nothing
        · exact unnamed ((set _).mp admits)
    | excessive name second member notAssertion notAuthentication =>
        obtain rfl := KeyType.named_alone second named
        obtain ⟨p, rfl⟩ := known name member
        obtain ⟨nothing, _⟩ | ⟨_, set, admits⟩ := outcome
        · rw [nothing] at member
          cases member
        · rcases admits p ((set p).mpr member) with rfl | rfl
          · exact notAssertion rfl
          · exact notAuthentication rfl
  · intro nothing
    by_contra accepted
    obtain ⟨type, named⟩ : ∃ type : KeyType, type.Named v := by
      by_contra unnamed
      exact accepted (.unknownType fun t named => unnamed ⟨t, named⟩)
    have known : ∀ name ∈ names, ∃ p : Purpose, name = .text p.name := by
      intro name member
      by_contra unknown
      exact accepted (.unknownPurpose name member fun p same => unknown ⟨p, same⟩)
    by_cases asked : names = []
    · exact nothing ⟨_, type, named, known, .inl ⟨asked, rfl⟩⟩
    · obtain ⟨ps, found⟩ := Purpose.all_known_iff.mp known
      have barred : ¬ Admits type (ofList ps) := fun admits =>
        nothing ⟨_, type, named, known, .inr ⟨asked, mem_named found, admits⟩⟩
      cases type with
      | secp256k1 => exact accepted (.uncontrolling named asked fun member => barred ((mem_named found _).mpr member))
      | secp256r1 =>
          refine barred fun p member => ?_
          by_contra other
          refine accepted (.excessive (.text p.name) named ((mem_named found p).mp member) ?_ ?_)
          · exact fun same => other (.inl (Purpose.name_inj.mp same))
          · exact fun same => other (.inr (Purpose.name_inj.mp same))

theorem refusal_family {v : Value} {r : Request} {e : Error} (refused : assignTo v r.value = .error e) :
    e.kind = .invalidPurpose := by
  rw [assignTo] at refused
  cases typed : KeyType.ofValue v with
  | error other =>
      rw [typed] at refused
      cases refused
      rfl
  | ok type =>
      rw [typed] at refused
      obtain unread | ⟨t, _, _, barred⟩ := assignment_refused_iff.mp refused
      · rw [of_request, Purpose.ofValues] at unread
        split at unread <;> cases unread
        rfl
      · cases type with
        | secp256k1 =>
            rw [allowed] at barred
            split at barred <;> cases barred
            rfl
        | secp256r1 =>
            rw [allowed] at barred
            split at barred <;> cases barred
            rfl

theorem comes_nonempty {type : KeyType} {names : List Value} {s : PurposeSet} (comes : Comes type names s) : ∃ p, p ∈ s := by
  obtain ⟨known, ⟨_, rfl⟩ | ⟨asked, set, _⟩⟩ := comes
  · exact (nonempty_iff _).mp (default_nonempty type)
  · obtain ⟨name, member⟩ := List.exists_mem_of_ne_nil names asked
    obtain ⟨p, rfl⟩ := known name member
    exact ⟨p, (set p).mpr member⟩

theorem comes_admitted {type : KeyType} {names : List Value} {s : PurposeSet} (comes : Comes type names s) :
    Admits type s := by
  obtain ⟨_, ⟨_, rfl⟩ | ⟨_, _, admits⟩⟩ := comes
  · exact default_admitted type
  · exact admits

theorem comes_again {type : KeyType} {names : List Value} {s : PurposeSet} (comes : Comes type names s) {r : Request}
    (lists : r.Lists s) : Comes type r.names s := by
  refine ⟨fun name member => ?_, .inr ⟨?_, fun p => ?_, comes_admitted comes⟩⟩
  · obtain ⟨p, _, same⟩ := (lists name).mp member
    exact ⟨p, same⟩
  · obtain ⟨p, member⟩ := comes_nonempty comes
    exact List.ne_nil_of_mem ((lists _).mpr ⟨p, member, rfl⟩)
  · rw [lists]
    simp only [Purpose.name_inj, exists_eq_right']

-- How a request ends: with the purposes that it names or the usual ones, or with an error of one family. Only the type
-- and the set of the names count.
structure Settled (v : Value) (r : Request) : Prop where
  refused : (∃ e, assignTo v r.value = .error e) ↔ Refused v r.names
  family : ∀ e, assignTo v r.value = .error e → e.kind = .invalidPurpose
  granted : ∀ s, assignTo v r.value = .ok s → ∃ type : KeyType, type.Named v ∧
    (r.names = [] → s = defaultFor type) ∧ (r.names ≠ [] → ∀ p, p ∈ s ↔ .text p.name ∈ r.names) ∧
    (∃ p, p ∈ s) ∧ Admits type s ∧
    ∀ w, type.Named w → ∀ again : Request, again.Lists s → assignTo w again.value = .ok s
  set : ∀ other : Request, r.SameNames other → ∀ s, assignTo v r.value = .ok s ↔ assignTo v other.value = .ok s

theorem assigned_settled (v : Value) (r : Request) : Settled v r := by
  refine ⟨?_, fun e => refusal_family, ?_, ?_⟩
  · simp only [refused_iff, ← assign_to_iff]
    cases assignTo v r.value <;> simp
  · intro s granted
    obtain ⟨type, named, comes⟩ := assign_to_iff.mp granted
    refine ⟨type, named, fun nothing => ?_, fun asked => ?_, comes_nonempty comes, comes_admitted comes, ?_⟩
    · obtain ⟨_, usual⟩ | ⟨asked, _⟩ := comes.2
      · exact usual
      · exact absurd nothing asked
    · obtain ⟨nothing, _⟩ | ⟨_, set, _⟩ := comes.2
      · exact absurd nothing asked
      · exact set
    · intro w namedToo again lists
      exact assign_to_iff.mpr ⟨type, namedToo, comes_again comes lists⟩
  · intro other same s
    simp only [assign_to_iff, comes_alike same]

-- A type that is given itself is as good as its name.
theorem requests_settled (r : Request) :
    (∀ v, Settled v r) ∧ ∀ type : KeyType, assign type r.value = assignTo (.text type.name) r.value := by
  refine ⟨fun v => assigned_settled v r, fun type => ?_⟩
  have named : type.Named (.text type.name) := ⟨type.name, rfl, rfl⟩
  rw [assignTo, KeyType.of_value_iff.mpr named]

end PurposeSet
end EbsiDid
