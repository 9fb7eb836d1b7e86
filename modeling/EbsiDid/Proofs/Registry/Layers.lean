import EbsiDid.Proofs.Json.Records
import EbsiDid.Registry.Endpoint

set_option autoImplicit false

/-!
Layers of options. A merged layer has the members that some layer has, each with the last value that is given for it, so
that it makes no difference in how many stages layers are merged.
-/
namespace EbsiDid

namespace Registry

/-! ### Merged layers -/

theorem update_layers (r : Record) (layers : List Record) :
    layers.foldl (fun acc options => Record.update acc (layer options)) r = Record.update r (layers.flatMap layer) := by
  induction layers generalizing r with
  | nil => rfl
  | cons first rest ih => rw [List.foldl_cons, ih, List.flatMap_cons, Record.update_append]

theorem merge_members (layers : List Record) : merge layers = Record.ofList (layers.flatMap layer) := update_layers [] layers

theorem merge_append (front : List Record) (last : Record) :
    merge (front ++ [last]) = Record.update (merge front) (layer last) := by
  rw [merge, List.foldl_append]
  rfl

theorem mem_layer {member : String × Value} {options : Record} :
    member ∈ layer options ↔ member ∈ options ∧ member.2.isNull = false := by
  rw [layer, List.mem_filter, Bool.not_eq_true']

theorem merged_once (layers : List Record) : (merge layers).keys.Nodup := by
  rw [merge_members]
  exact Record.list_once _

theorem merged_member {layers : List Record} {member : String × Value} (merged : member ∈ merge layers) :
    ∃ options ∈ layers, member ∈ layer options := by
  have found := Record.get?_of_mem (merged_once layers) merged
  rw [merge_members, Record.ofList, Record.get?_update, Record.get?, Option.or_none] at found
  exact List.mem_flatMap.mp (List.mem_reverse.mp (Record.mem_of_get? found))

theorem key_merged_iff (layers : List Record) (key : String) :
    key ∈ (merge layers).keys ↔ ∃ options ∈ layers, ∃ v, (key, v) ∈ options ∧ v.isNull = false := by
  rw [merge_members, Record.ofList, Record.mem_keys_update]
  simp only [Record.keys, List.map_nil, List.not_mem_nil, false_or, List.mem_map, List.mem_flatMap]
  constructor
  · rintro ⟨⟨_, v⟩, ⟨options, among, member⟩, rfl⟩
    exact ⟨options, among, v, mem_layer.mp member⟩
  · rintro ⟨options, among, v, member⟩
    exact ⟨(key, v), ⟨options, among, mem_layer.mpr member⟩, rfl⟩

-- Nothing that is null is left to be ignored.
theorem layer_merged (layers : List Record) : layer (merge layers) = merge layers := by
  rw [layer, List.filter_eq_self]
  intro member merged
  obtain ⟨options, _, given⟩ := merged_member merged
  rw [(mem_layer.mp given).2]
  rfl

theorem layer_layer (options : Record) : layer (layer options) = layer options := by
  rw [layer, layer, List.filter_filter]
  simp only [Bool.and_self]

theorem update_lists (r : Record) (lists : List Record) :
    Record.update r (lists.flatMap Record.ofList) = Record.update r lists.flatten := by
  induction lists generalizing r with
  | nil => rfl
  | cons first rest ih =>
      rw [List.flatMap_cons, List.flatten_cons, Record.update_append, Record.update_append, Record.update_of_list, ih]

-- Layers can be merged in groups first.
theorem merge_stages (groups : List (List Record)) : merge (groups.map merge) = merge groups.flatten := by
  have staged : (groups.map merge).flatMap layer = (groups.map fun group => group.flatMap layer).flatMap Record.ofList := by
    rw [List.flatMap_map, List.flatMap_map]
    refine List.flatMap_congr fun group _ => ?_
    rw [layer_merged, merge_members]
  have joined : (groups.map fun group => group.flatMap layer).flatten = groups.flatten.flatMap layer := by
    rw [← List.flatMap_def, ← List.flatMap_id, List.flatMap_assoc]
    rfl
  rw [merge_members, merge_members, staged, Record.ofList, update_lists, joined]
  rfl

theorem merge_first (first : Record) (layers : List Record) : merge [first, merge layers] = merge (first :: layers) := by
  have staged : [first, merge layers].flatMap layer = layer first ++ Record.ofList (layers.flatMap layer) := by
    rw [List.flatMap_cons, List.flatMap_cons, List.flatMap_nil, List.append_nil, layer_merged, merge_members]
  rw [merge_members [first, merge layers], staged, merge_members (first :: layers), List.flatMap_cons]
  rw [Record.ofList, Record.update_append, Record.update_of_list, ← Record.update_append]
  rfl

theorem merge_layers (layers : List Record) : merge (layers.map layer) = merge layers := by
  rw [merge_members, merge_members, List.flatMap_map]
  simp only [layer_layer]

theorem merge_counting (layers : List Record) : merge (layers.filter fun options => !options.isEmpty) = merge layers := by
  have members : (layers.filter fun options => !options.isEmpty).flatMap layer = layers.flatMap layer := by
    induction layers with
    | nil => rfl
    | cons first rest ih =>
        cases first with
        | nil => exact ih
        | cons member more =>
            rw [List.filter_cons_of_pos rfl, List.flatMap_cons, List.flatMap_cons, ih]
  rw [merge_members, merge_members, members]

/-! ### Layers by value -/

-- What can be read as a layer, and the members it then has.
def readable (v : Value) : Bool := !v.truthy || v.record?.isSome

def membersOf (v : Value) : Record := v.record?.getD []

theorem layer_of (v : Value) : layerOf v = if readable v then .ok (membersOf v) else .error .missingAttribute := by
  cases v with
  | record fields => cases fields <;> rfl
  | _ =>
      simp only [layerOf, readable, membersOf, Value.record?, Option.isSome, Option.getD, Bool.or_false]
      split <;> simp_all

theorem merge_values (values : List Value) : mergeValues values =
    if values.all readable then .ok (merge (values.map membersOf)) else .error .missingAttribute := by
  rw [mergeValues, map_guarded fun v _ => layer_of v]
  split <;> rfl

-- What is empty, null among it, is no layer, and a member that is null is none.
def withoutNulls : Value → Value
  | .record fields => .record (layer fields)
  | v => v

structure MergeLaws : Prop where
  stages : ∀ groups : List (List Value),
    (groups.mapM mergeValues >>= fun merged => mergeValues (merged.map .record)) = mergeValues groups.flatten
  nulls : ∀ values, mergeValues (values.map withoutNulls) = mergeValues values
  empties : ∀ values, mergeValues (values.filter Value.truthy) = mergeValues values
  present : ∀ values merged, mergeValues values = .ok merged → ∀ key,
    key ∈ merged.keys ↔ ∃ fields, .record fields ∈ values ∧ ∃ v, (key, v) ∈ fields ∧ v.isNull = false

theorem merge_laws : MergeLaws where
  stages groups := by
    have read (layers : List Record) : mergeValues (layers.map .record) = .ok (merge layers) := by
      have fit : (layers.map Value.record).all readable = true := by
        simp [readable, Value.record?]
      rw [merge_values, if_pos fit, List.map_map]
      exact congrArg (fun found => Except.ok (merge found)) (List.map_id layers)
    have joined : groups.flatten.map membersOf = (groups.map (List.map membersOf)).flatten := List.map_flatten
    have staged : groups.map (fun group => merge (group.map membersOf)) = (groups.map (List.map membersOf)).map merge :=
      (List.map_map ..).symm
    rw [map_guarded fun values _ => merge_values values, merge_values groups.flatten, List.all_flatten, joined, ← merge_stages, ← staged]
    split
    · exact read _
    · rfl
  nulls values := by
    have fits (v : Value) : readable (withoutNulls v) = readable v := by
      cases v <;> simp [withoutNulls, readable, Value.record?]
    have members (v : Value) : membersOf (withoutNulls v) = layer (membersOf v) := by
      cases v <;> rfl
    rw [merge_values, merge_values, List.all_map, List.map_map, ← merge_layers (values.map membersOf), List.map_map]
    simp only [Function.comp_def, fits, members]
  empties values := by
    have fits : (values.filter Value.truthy).all readable = values.all readable := by
      rw [List.all_filter]
      congr 1
      funext v
      cases counts : v.truthy <;> simp [readable, counts]
    have members : ((values.filter Value.truthy).map membersOf).filter (fun options => !options.isEmpty) =
        (values.map membersOf).filter fun options => !options.isEmpty := by
      rw [List.filter_map, List.filter_map, List.filter_filter]
      congr 2
      funext v
      cases v <;> simp [membersOf, Value.record?, Value.truthy]
    rw [merge_values, merge_values, fits, ← merge_counting, members, merge_counting]
  present values merged read key := by
    rw [merge_values] at read
    split at read <;> cases read
    rw [key_merged_iff]
    simp only [List.mem_map, exists_exists_and_eq_and]
    constructor
    · rintro ⟨v, among, w, member, given⟩
      cases v with
      | record fields => exact ⟨fields, among, w, member, given⟩
      | _ => cases member
    · rintro ⟨fields, among, given⟩
      exact ⟨.record fields, among, given⟩

/-! ### Which value wins -/

-- The last of some values that is not null.
def lastGiven (values : List Value) : Value := ((values.filter fun v => !v.isNull).getLast?).getD .null

theorem last_given_append (front : List Value) (last : Value) :
    lastGiven (front ++ [last]) = if last.isNull then lastGiven front else last := by
  rw [lastGiven, List.filter_append]
  cases null : last.isNull <;> simp [null, lastGiven]

theorem get_layer {options : Record} (once : options.keys.Nodup) (key : String) :
    Record.get? key (layer options).reverse = if (options.get key).isNull then none else some (options.get key) := by
  have onceToo : (Record.keys (layer options).reverse).Nodup := by
    rw [Record.keys, List.map_reverse, List.nodup_reverse]
    exact once.sublist (List.filter_sublist.map Prod.fst)
  split
  · rename_i null
    rw [Option.eq_none_iff_forall_ne_some]
    intro v found
    have given := mem_layer.mp (List.mem_reverse.mp (Record.mem_of_get? found))
    rw [Record.get, Record.get?_of_mem once given.1, Option.getD_some, given.2] at null
    cases null
  · rename_i counts
    cases found : Record.get? key options with
    | none =>
        rw [Record.get, found] at counts
        exact absurd rfl counts
    | some v =>
        rw [Record.get, found, Option.getD_some] at counts ⊢
        have given : (key, v) ∈ layer options :=
          mem_layer.mpr ⟨Record.mem_of_get? found, Bool.eq_false_iff.mpr counts⟩
        exact Record.get?_of_mem onceToo (List.mem_reverse.mpr given)

theorem get_merged {layers : List Record} (once : ∀ options ∈ layers, options.keys.Nodup) (key : String) :
    (merge layers).get key = lastGiven (layers.map (Record.get key)) := by
  induction layers using List.reverseRecOn with
  | nil => rfl
  | append_singleton front last ih =>
      rw [List.forall_mem_append, List.forall_mem_singleton] at once
      rw [List.map_append, List.map_singleton, last_given_append, ← ih once.1, merge_append, Record.get, Record.get?_update,
        get_layer once.2]
      split <;> rfl

end Registry
end EbsiDid
