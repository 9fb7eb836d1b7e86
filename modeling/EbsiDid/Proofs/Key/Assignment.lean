import EbsiDid.Key.Assignment

set_option autoImplicit false

/-!
Purposes as they are assigned to a key: those that are requested, if there are any and the type of the key admits
them, or else the usual ones of the type.
-/
namespace EbsiDid

namespace Purpose

theorem names_error {v : Value} {e : Error} (failed : namesIn v = .error e) : e = .wrongType := by
  unfold namesIn at failed
  split at failed
  · cases failed
  · split at failed
    · cases failed
    · cases failed
      rfl

theorem of_value_iff {v : Value} {p : Purpose} : ofValue? v = some p ↔ v = .text p.name := by
  constructor
  · intro found
    cases v with
    | text s =>
        have same := List.find?_some found
        rw [beq_iff_eq.mp same]
    | _ => cases found
  · rintro rfl
    exact ofName?_name p

theorem name_inj {p q : Purpose} : Value.text p.name = .text q.name ↔ p = q := by
  rw [← of_value_iff, of_value_iff.mpr rfl, Option.some.injEq]

-- Names are known one by one, and stand for the purposes in their order.
theorem known_iff {names : List Value} {ps : List Purpose} :
    names.mapM ofValue? = some ps ↔ names = ps.map fun p => .text p.name := by
  induction names generalizing ps with
  | nil => cases ps <;> simp
  | cons name rest ih =>
      rw [List.mapM_cons]
      constructor
      · intro known
        obtain ⟨p, first, later⟩ := Option.bind_eq_some_iff.mp known
        obtain ⟨others, more, same⟩ := Option.bind_eq_some_iff.mp later
        cases same
        rw [of_value_iff.mp first, ih.mp more, List.map_cons]
      · intro same
        cases ps with
        | nil => cases same
        | cons p others =>
            obtain ⟨first, more⟩ := List.cons.inj same
            rw [of_value_iff.mpr first, ih.mpr more]
            rfl

theorem all_known_iff {names : List Value} :
    (∀ name ∈ names, ∃ p : Purpose, name = .text p.name) ↔ ∃ ps, names.mapM ofValue? = some ps := by
  simp only [known_iff]
  induction names with
  | nil => exact ⟨fun _ => ⟨[], rfl⟩, nofun⟩
  | cons name rest ih =>
      rw [List.forall_mem_cons, ih]
      constructor
      · rintro ⟨⟨p, rfl⟩, ps, rfl⟩
        exact ⟨p :: ps, rfl⟩
      · rintro ⟨ps, same⟩
        cases ps with
        | nil => cases same
        | cons p others =>
            obtain ⟨first, more⟩ := List.cons.inj same
            exact ⟨⟨p, first⟩, others, more⟩

theorem names_known (ps : List Purpose) : (ps.map fun p => Value.text p.name).mapM ofValue? = some ps := known_iff.mpr rfl

end Purpose

namespace PurposeSet

theorem default_nonempty (type : KeyType) : (defaultFor type).isEmpty = false := by
  cases type <;> decide

theorem request_refused_iff {v : Value} {e : Error} :
    ofOptional v = .error e ↔ v.truthy = true ∧
      (Purpose.namesIn v = .error e ∨ ∃ names, Purpose.namesIn v = .ok names ∧ Purpose.ofValues names = .error e) := by
  by_cases asks : v.truthy = true
  · rw [ofOptional, if_pos asks, ofValue]
    cases named : Purpose.namesIn v with
    | error other => simp [asks, bind, Except.bind]
    | ok names =>
        cases known : Purpose.ofValues names with
        | error other => simp [asks, known, bind, Except.bind]
        | ok purposes => simp [known, bind, Except.bind, pure, Except.pure]
  · rw [ofOptional, if_neg asks]
    exact ⟨nofun, fun refused => absurd refused.1 asks⟩

section Assignments

variable {type : KeyType} {v : Value}

theorem assign_requested {t : PurposeSet} (requested : ofOptional v = .ok t) :
    assign type v = if t.isEmpty then .ok (defaultFor type) else (allowed type t).map fun _ => t := by
  rw [assign, requested]
  by_cases empty : t.isEmpty = true
  · rw [if_pos empty]
    exact if_pos empty
  · rw [if_neg empty]
    refine (if_neg empty).trans ?_
    cases allowed type t <;> rfl

theorem assigned_cases {s : PurposeSet} (assigned : assign type v = .ok s) :
    s = defaultFor type ∨ (s.isEmpty = false ∧ allowed type s = .ok ()) := by
  cases requested : ofOptional v with
  | error e =>
      rw [assign, requested] at assigned
      cases assigned
  | ok t =>
      rw [assign_requested requested] at assigned
      split at assigned
      · cases assigned
        exact .inl rfl
      · rename_i nonempty
        cases fits : allowed type t with
        | error e =>
            rw [fits] at assigned
            cases assigned
        | ok _ =>
            rw [fits] at assigned
            cases assigned
            exact .inr ⟨Bool.eq_false_iff.mpr nonempty, fits⟩

theorem assignment_refused_iff {e : Error} :
    assign type v = .error e ↔ ofOptional v = .error e ∨
      ∃ t, ofOptional v = .ok t ∧ t.isEmpty = false ∧ allowed type t = .error e := by
  cases requested : ofOptional v with
  | error other =>
      have refused : assign type v = .error other := by
        rw [assign, requested]
        rfl
      rw [refused]
      simp
  | ok t =>
      rw [assign_requested requested]
      cases empty : t.isEmpty with
      | true => simp [empty]
      | false => cases fits : allowed type t <;> simp [empty, fits, Except.map]

theorem assigned_nonempty {s : PurposeSet} (assigned : assign type v = .ok s) : s.isEmpty = false := by
  obtain rfl | ⟨nonempty, _⟩ := assigned_cases assigned
  · exact default_nonempty type
  · exact nonempty

theorem assigned_invokes {s : PurposeSet} (assigned : assign .secp256k1 v = .ok s) : .capabilityInvocation ∈ s := by
  obtain rfl | ⟨_, fits⟩ := assigned_cases assigned
  · rfl
  · rw [allowed] at fits
    split at fits
    · assumption
    · cases fits

end Assignments

end PurposeSet
end EbsiDid
