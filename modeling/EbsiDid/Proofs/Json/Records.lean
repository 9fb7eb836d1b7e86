import EbsiDid.Proofs.Json.Proper

set_option autoImplicit false

/-!
Records in which members are put one after another. No key comes twice in them; the last member that is put under a key
is found, and to put the members of a record that was made so is to put those that it was made of.
-/
namespace EbsiDid

namespace Record

theorem keys_put (key : String) (v : Value) (r : Record) :
    keys (put key v r) = if key ∈ keys r then keys r else keys r ++ [key] := by
  induction r with
  | nil => rfl
  | cons field rest ih =>
      obtain ⟨k, w⟩ := field
      by_cases same : k = key
      · simp [put, keys, same]
      · have other : key ≠ k := fun eq => same eq.symm
        have below : keys (put key v ((k, w) :: rest)) = k :: keys (put key v rest) := by
          rw [put, if_neg same]
          rfl
        have member : key ∈ keys ((k, w) :: rest) ↔ key ∈ keys rest := List.mem_cons.trans (or_iff_right other)
        rw [below, ih]
        simp only [member]
        split <;> rfl

theorem put_once {r : Record} (once : r.keys.Nodup) (key : String) (v : Value) : (put key v r).keys.Nodup := by
  rw [keys_put]
  split
  · exact once
  · rename_i absent
    refine List.nodup_append.mpr ⟨once, List.nodup_singleton key, ?_⟩
    rintro k member other here rfl
    rw [List.mem_singleton.mp here] at member
    exact absent member

theorem update_append (r a b : Record) : update r (a ++ b) = update (update r a) b := List.foldl_append

theorem update_once {r : Record} (once : r.keys.Nodup) (later : Record) : (update r later).keys.Nodup := by
  induction later generalizing r with
  | nil => exact once
  | cons field rest ih => exact ih (put_once once field.1 field.2)

theorem put_put_same (key : String) (v w : Value) (r : Record) : put key v (put key w r) = put key v r := by
  induction r with
  | nil => simp [put]
  | cons field rest ih =>
      obtain ⟨k, x⟩ := field
      by_cases same : k = key <;> simp [put, same, ih]

-- A member that is there is replaced in its place, whatever is put beside it.
theorem put_put_other {key other : String} (apart : other ≠ key) (v w : Value) {r : Record} (present : key ∈ keys r) :
    put key v (put other w r) = put other w (put key v r) := by
  induction r with
  | nil => cases present
  | cons field rest ih =>
      obtain ⟨k, x⟩ := field
      by_cases here : k = key
      · subst here
        simp [put, apart.symm]
      · have later : key ∈ keys rest := by
          rcases List.mem_cons.mp present with same | later
          · exact absurd same.symm here
          · exact later
        by_cases too : k = other <;> simp [put, here, too, apart, ih later]

theorem put_update {key : String} {later : Record} (absent : key ∉ keys later) (v : Value) {r : Record}
    (present : key ∈ keys r) : put key v (update r later) = update (put key v r) later := by
  induction later generalizing r with
  | nil => rfl
  | cons field rest ih =>
      obtain ⟨k, w⟩ := field
      have apart : k ≠ key := fun same => absent (List.mem_cons.mpr (.inl same.symm))
      have more : key ∉ keys rest := fun member => absent (List.mem_cons_of_mem _ member)
      have still : key ∈ keys (put k w r) := by
        rw [keys_put]
        split
        · exact present
        · exact List.mem_append_left _ present
      change put key v (update (put k w r) rest) = update (put k w (put key v r)) rest
      rw [ih more still, put_put_other apart v w present]

theorem update_put {later : Record} (once : later.keys.Nodup) (r : Record) (key : String) (v : Value) :
    update r (put key v later) = put key v (update r later) := by
  induction later generalizing r with
  | nil => rfl
  | cons field rest ih =>
      obtain ⟨k, w⟩ := field
      obtain ⟨absent, more⟩ := List.nodup_cons.mp once
      by_cases same : k = key
      · subst same
        have present : k ∈ keys (put k w r) := by
          rw [keys_put]
          split
          · assumption
          · exact List.mem_append_right _ (List.mem_singleton.mpr rfl)
        rw [put, if_pos rfl]
        change update (put k v r) rest = put k v (update (put k w r) rest)
        rw [put_update absent v present, put_put_same]
      · rw [put, if_neg same]
        exact ih more (put k w r)

theorem list_once (fields : Record) : (ofList fields).keys.Nodup := by
  have empty : (keys []).Nodup := List.nodup_nil
  exact update_once empty fields

-- To put members one after another is to put the record that they make.
theorem update_of_list (r fields : Record) : update r (ofList fields) = update r fields := by
  induction fields using List.reverseRecOn with
  | nil => rfl
  | append_singleton front field ih =>
      have made : ofList (front ++ [field]) = put field.1 field.2 (ofList front) := update_append [] front [field]
      rw [made, update_put (list_once front), ih, update_append]
      rfl

/-! ### Look-ups -/

theorem get?_put (key other : String) (v : Value) (r : Record) :
    get? other (put key v r) = if other = key then some v else get? other r := by
  by_cases same : other = key
  · rw [if_pos same, same, get?_put_same]
  · rw [if_neg same, get?_put_other key other v r same]

theorem get?_erase (key other : String) (r : Record) :
    get? other (erase key r) = if other = key then none else get? other r := by
  induction r with
  | nil => simp [erase, get?]
  | cons field rest ih =>
      obtain ⟨k, v⟩ := field
      rw [erase] at ih
      by_cases here : k = key
      · subst here
        rw [erase, List.filter_cons_of_neg (by simp), ih]
        by_cases same : other = k
        · simp [same]
        · rw [if_neg same, if_neg same, get?, if_neg (Ne.symm same)]
      · rw [erase, List.filter_cons_of_pos (by simpa using here), get?, get?, ih]
        by_cases same : k = other
        · subst same
          simp [here]
        · simp [same]

theorem mem_keys_iff (key : String) (r : Record) : key ∈ keys r ↔ (get? key r).isSome = true := by
  induction r with
  | nil => simp [keys, get?]
  | cons field rest ih =>
      obtain ⟨k, v⟩ := field
      by_cases here : k = key
      · simp [keys, get?, here]
      · have apart : key ≠ k := fun same => here same.symm
        rw [get?, if_neg here, ← ih, keys, List.map_cons, List.mem_cons]
        exact or_iff_right apart

theorem keys_erase (key : String) (r : Record) : keys (erase key r) = (keys r).filter fun k => k ≠ key := by
  rw [keys, keys, erase, List.filter_map]
  rfl

theorem erase_absent {key : String} {r : Record} (absent : get? key r = none) : erase key r = r := by
  refine List.filter_eq_self.mpr fun field member => decide_eq_true ?_
  rintro rfl
  have found := (mem_keys_iff field.1 r).mp (List.mem_map_of_mem member)
  rw [absent] at found
  cases found

theorem put_present {key : String} {v : Value} {r : Record} (found : get? key r = some v) : put key v r = r := by
  induction r with
  | nil => cases found
  | cons field rest ih =>
      obtain ⟨k, w⟩ := field
      by_cases here : k = key
      · rw [get?, if_pos here] at found
        cases found
        rw [put, if_pos here]
      · rw [get?, if_neg here] at found
        rw [put, if_neg here, ih found]

-- Where no key comes twice, keys and look-ups are all there is of a record.
theorem eq_of_members {r s : Record} (once : r.keys.Nodup) (sameKeys : r.keys = s.keys)
    (members : ∀ key, get? key r = get? key s) : r = s := by
  induction r generalizing s with
  | nil => exact (List.map_eq_nil_iff.mp sameKeys.symm).symm
  | cons field rest ih =>
      obtain ⟨k, v⟩ := field
      obtain _ | ⟨⟨k', w⟩, rest'⟩ := s
      · cases sameKeys
      · obtain ⟨rfl, later⟩ := List.cons.inj sameKeys
        obtain ⟨absent, more⟩ := List.nodup_cons.mp once
        have first := members k
        rw [get?, get?, if_pos rfl, if_pos rfl] at first
        cases first
        refine congrArg _ (ih more later fun key => ?_)
        by_cases same : k = key
        · subst same
          have none_here (r : Record) (missing : k ∉ keys r) : get? k r = none := by
            rwa [mem_keys_iff, Option.isSome_iff_ne_none, not_not] at missing
          rw [none_here rest absent, none_here rest' fun member => absent (later ▸ member)]
        · have below := members key
          rwa [get?, get?, if_neg same, if_neg same] at below

-- The last of the members that are put is found.
theorem get?_update (key : String) (r later : Record) :
    get? key (update r later) = (get? key later.reverse).or (get? key r) := by
  induction later using List.reverseRecOn with
  | nil => rfl
  | append_singleton front field ih =>
      obtain ⟨k, v⟩ := field
      have made : update r (front ++ [(k, v)]) = put k v (update r front) := update_append r front [(k, v)]
      rw [made, get?_put, ih, List.reverse_append]
      by_cases here : key = k
      · simp [get?, here]
      · have apart : k ≠ key := fun same => here same.symm
        simp [get?, here, apart]

theorem mem_keys_update (key : String) (r later : Record) : key ∈ keys (update r later) ↔ key ∈ keys r ∨ key ∈ keys later := by
  induction later generalizing r with
  | nil => simp [update, keys]
  | cons field rest ih =>
      obtain ⟨k, v⟩ := field
      have first : key ∈ keys (put k v r) ↔ key ∈ keys r ∨ key = k := by
        rw [keys_put]
        split
        · rename_i present
          exact ⟨.inl, fun given => given.elim id fun same => same ▸ present⟩
        · rw [List.mem_append, List.mem_singleton]
      have rest : key ∈ keys (update (put k v r) rest) ↔ _ := ih (put k v r)
      change key ∈ keys (update (put k v r) _) ↔ _
      rw [rest, first, or_assoc]
      exact or_congr_right List.mem_cons.symm

end Record

end EbsiDid
