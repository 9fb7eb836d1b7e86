import EbsiDid.Error.Basic
import EbsiDid.Json.Entries

set_option autoImplicit false

/-!
Keys that are alike are one key. A key stands for a handle, in which the words of zero are one, so that
being alike is equality of handles; an entry that is put is found under just that handle.
-/
namespace EbsiDid

-- Where the members of a list fail, they all fail in one way.
theorem map_guarded {α β : Type} {f : α → Except Error β} {fits : α → Bool} {g : α → β} {e : Error} {list : List α}
    (each : ∀ a ∈ list, f a = if fits a then .ok (g a) else .error e) :
    list.mapM f = if list.all fits then .ok (list.map g) else .error e := by
  induction list with
  | nil => rfl
  | cons a rest ih =>
      obtain ⟨first, later⟩ := List.forall_mem_cons.mp each
      rw [List.mapM_cons, first, ih later, List.all_cons]
      cases fits a <;> cases rest.all fits <;> rfl

namespace Binary64

def settled (x : Binary64) : Binary64 := if x.isZero then zeroOf false else x

theorem same_iff (x y : Binary64) : x.same y = true ↔ (x.isZero = true ∧ y.isZero = true) ∨ x = y := by
  have words : (x == y) = true ↔ x = y := beq_iff_eq
  unfold same isZero
  cases x.reading with
  | nan => simp
  | infinite s => simp
  | finite s m q =>
      cases y.reading with
      | nan => cases m <;> simp
      | infinite t => cases m <;> simp
      | finite t n r => cases m <;> cases n <;> simp

theorem same_settled (x y : Binary64) : x.same y = true ↔ x.settled = y.settled := by
  have zero : (zeroOf false).isZero = true := by decide
  rw [same_iff]
  unfold settled
  by_cases first : x.isZero = true
  · by_cases second : y.isZero = true
    · rw [if_pos first, if_pos second]
      exact ⟨fun _ => rfl, fun _ => .inl ⟨first, second⟩⟩
    · rw [if_pos first, if_neg second]
      constructor
      · rintro (⟨_, other⟩ | rfl)
        · exact absurd other second
        · exact absurd first second
      · rintro rfl
        exact absurd zero second
  · by_cases second : y.isZero = true
    · rw [if_neg first, if_pos second]
      constructor
      · rintro (⟨other, _⟩ | rfl)
        · exact absurd other first
        · exact absurd second first
      · rintro rfl
        exact absurd zero first
    · rw [if_neg first, if_neg second]
      constructor
      · rintro (⟨other, _⟩ | same)
        · exact absurd other first
        · exact same
      · exact .inr

end Binary64

namespace Value

inductive Handle where
  | null
  | number (n : Numeric)
  | text (s : String)

def Numeric.settled : Numeric → Numeric
  | .whole n => .whole n
  | .real x => .real x.settled

theorem numeric_same_settled (m n : Numeric) : m.same n = true ↔ m.settled = n.settled := by
  cases m <;> cases n <;> simp [Numeric.same, Numeric.settled, Binary64.same_settled]

def handle (v : Value) : Option Handle :=
  match v.numeric? with
  | some n => some (.number n.settled)
  | none =>
      match v with
      | .null => some .null
      | .text s => some (.text s)
      | _ => none

theorem scalars_alike_handle (a b : Value) (scalar : b.hashable = true) :
    scalarsAlike a b = true ↔ a.handle = b.handle := by
  cases a <;> cases b <;> simp [scalarsAlike, handle, numeric?, numeric_same_settled, hashable] at *

theorem alike_handle (a b : Value) (scalar : b.hashable = true) : a.alike b = true ↔ a.handle = b.handle := by
  rw [← scalars_alike_handle a b scalar]
  cases a <;> cases b <;> simp [alike, scalarsAlike, numeric?, hashable] at *

theorem alike_self (a : Value) (scalar : a.hashable = true) : a.alike a = true :=
  (alike_handle a a scalar).mpr rfl

-- Whatever is alike to one of two like keys is alike to the other.
theorem alike_congr {a b : Value} (c : Value) (scalar : a.hashable = true) (other : b.hashable = true)
    (same : a.alike b = true) : c.alike a = c.alike b := by
  rw [Bool.eq_iff_iff, alike_handle c a scalar, alike_handle c b other, (alike_handle a b other).mp same]

theorem alike_apart {a b c : Value} (scalar : b.hashable = true) (other : c.hashable = true) (same : a.alike b = true)
    (apart : b.alike c = false) : a.alike c = false := by
  cases hit : a.alike c with
  | false => rfl
  | true =>
      have handles := (alike_handle a b scalar).mp same
      rw [alike_handle a c other, handles, ← alike_handle b c other, apart] at hit
      cases hit

theorem alike_comm {a b : Value} (scalar : a.hashable = true) (other : b.hashable = true) : a.alike b = b.alike a := by
  rw [Bool.eq_iff_iff, alike_handle a b other, alike_handle b a scalar]
  exact eq_comm

theorem alike_text {v : Value} {s : String} (same : v.alike (.text s) = true) : v = .text s := by
  cases v <;> simp [alike, scalarsAlike, numeric?] at same
  rw [same]

theorem alike_unfit {a b : Value} (apart : a.hashable ≠ b.hashable) : a.alike b = false := by
  cases a <;> cases b <;> simp [alike, scalarsAlike, numeric?, hashable] at *

end Value

namespace Entries

variable {α : Type} {key other : Value}

theorem get_put_same (scalar : key.hashable = true) (a : α) (entries : Entries α) :
    get? key (put key a entries) = some a := by
  induction entries with
  | nil => rw [put, get?, if_pos (Value.alike_self key scalar)]
  | cons entry rest ih =>
      obtain ⟨k, b⟩ := entry
      by_cases here : k.alike key = true
      · rw [put, if_pos here, get?, if_pos here]
      · rw [put, if_neg here, get?, if_neg here]
        exact ih

theorem get_put_other (scalar : key.hashable = true) (otherScalar : other.hashable = true)
    (apart : key.alike other = false) (a : α) (entries : Entries α) :
    get? other (put key a entries) = get? other entries := by
  induction entries with
  | nil => simp [put, get?, apart]
  | cons entry rest ih =>
      obtain ⟨k, b⟩ := entry
      by_cases here : k.alike key = true
      · have missed := Value.alike_apart scalar otherScalar here apart
        rw [put, if_pos here, get?, get?, missed, if_neg Bool.false_ne_true, if_neg Bool.false_ne_true]
      · rw [put, if_neg here, get?, get?, ih]

theorem get_alike (scalar : key.hashable = true) (otherScalar : other.hashable = true)
    (same : key.alike other = true) (entries : Entries α) : get? other entries = get? key entries := by
  induction entries with
  | nil => rfl
  | cons entry rest ih =>
      obtain ⟨k, a⟩ := entry
      rw [get?, get?, Value.alike_congr k scalar otherScalar same, ih]

theorem get_put (scalar : key.hashable = true) (otherScalar : other.hashable = true) (a : α) (entries : Entries α) :
    get? other (put key a entries) = if key.alike other then some a else get? other entries := by
  cases same : key.alike other with
  | true => rw [if_pos rfl, get_alike scalar otherScalar same, get_put_same scalar]
  | false => rw [if_neg Bool.false_ne_true, get_put_other scalar otherScalar same]

theorem get_erase (scalar : key.hashable = true) (otherScalar : other.hashable = true) (entries : Entries α) :
    get? other (erase key entries) = if key.alike other then none else get? other entries := by
  induction entries with
  | nil => simp [erase, get?]
  | cons entry rest ih =>
      obtain ⟨k, a⟩ := entry
      rw [erase] at ih
      rw [erase, List.filter_cons, get?]
      by_cases here : k.alike key = true
      · rw [here, if_neg (by decide), ih]
        cases same : key.alike other with
        | true => rfl
        | false => simp [Value.alike_apart scalar otherScalar here same]
      · rw [if_pos (by simpa using here), get?, ih]
        cases same : key.alike other with
        | true => simp [← Value.alike_congr k scalar otherScalar same, here]
        | false => simp

/-! ### Keys alone -/

theorem has_iff_alike (key : Value) (entries : Entries α) :
    has key entries = true ↔ ∃ k ∈ keys entries, k.alike key = true := by
  induction entries with
  | nil => simp [has, get?, keys]
  | cons entry rest ih =>
      obtain ⟨k, a⟩ := entry
      by_cases here : k.alike key = true
      · simp [has, get?, keys, here]
      · simp only [has, get?, here, keys, List.map_cons, List.mem_cons, exists_eq_or_imp] at ih ⊢
        simpa using ih

theorem keys_put (key : Value) (a : α) (entries : Entries α) :
    keys (put key a entries) = if has key entries then keys entries else keys entries ++ [key] := by
  induction entries with
  | nil => rfl
  | cons entry rest ih =>
      obtain ⟨k, b⟩ := entry
      by_cases here : k.alike key = true
      · simp [put, has, get?, keys, here]
      · have found : has key ((k, b) :: rest) = has key rest := by rw [has, get?, if_neg here, has]
        rw [put, if_neg here, found, keys, List.map_cons, ← keys, ih]
        split <;> simp [keys]

theorem keys_erase (key : Value) (entries : Entries α) :
    keys (erase key entries) = (keys entries).filter fun k => !k.alike key := by
  rw [keys, keys, erase, List.filter_map]
  rfl

theorem put_absent {key : Value} {entries : Entries α} (absent : has key entries = false) (a : α) :
    put key a entries = entries ++ [(key, a)] := by
  induction entries with
  | nil => rfl
  | cons entry rest ih =>
      obtain ⟨k, b⟩ := entry
      by_cases here : k.alike key = true
      · simp [has, get?, here] at absent
      · have later : has key rest = false := by
          simpa [has, get?, here] using absent
        rw [put, if_neg here, ih later]
        rfl

theorem mem_keys_put {entries : Entries α} {key k : Value} {a : α} (member : k ∈ keys (put key a entries)) :
    k ∈ keys entries ∨ k = key := by
  rw [keys_put] at member
  split at member
  · exact .inl member
  · exact (List.mem_append.mp member).imp_right List.mem_singleton.mp

theorem mem_keys_update {entries later : Entries α} {k : Value} (member : k ∈ keys (update entries later)) :
    k ∈ keys entries ∨ k ∈ keys later := by
  induction later generalizing entries with
  | nil => exact .inl member
  | cons entry rest ih =>
      rcases ih member with put | later
      · exact (mem_keys_put put).imp_right fun same => List.mem_cons.mpr (.inl same)
      · exact .inr (List.mem_cons_of_mem _ later)

theorem mem_keys_erase {entries : Entries α} {key k : Value} (member : k ∈ keys (erase key entries)) : k ∈ keys entries := by
  rw [keys_erase] at member
  exact (List.mem_filter.mp member).1

-- What is put or erased under one key goes to the same place in maps of the same keys.
theorem has_of_keys {β : Type} {entries : Entries α} {others : Entries β} (same : keys entries = keys others) (key : Value) :
    has key entries = has key others := by
  rw [Bool.eq_iff_iff, has_iff_alike, has_iff_alike, same]

theorem keys_put_alike {β : Type} {entries : Entries α} {others : Entries β} (same : keys entries = keys others) (key : Value)
    (a : α) (b : β) : keys (put key a entries) = keys (put key b others) := by
  rw [keys_put, keys_put, has_of_keys same, same]

theorem keys_erase_alike {β : Type} {entries : Entries α} {others : Entries β} (same : keys entries = keys others)
    (key : Value) : keys (erase key entries) = keys (erase key others) := by
  rw [keys_erase, keys_erase, same]

end Entries
end EbsiDid
