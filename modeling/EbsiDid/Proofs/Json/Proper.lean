import EbsiDid.Proofs.Json.Entries
import EbsiDid.Proofs.Json.Texts
import EbsiDid.Proofs.Json.Words

set_option autoImplicit false

/-!
What a JSON value is, beyond its type: texts that keep their code points, numbers that have a text, and records in
which no key comes twice. Such a value is the same as itself.
-/
namespace EbsiDid

theorem Record.mem_of_get? {r : Record} {key : String} {v : Value} (found : r.get? key = some v) : (key, v) ∈ r := by
  induction r with
  | nil => cases found
  | cons field rest ih =>
      obtain ⟨k, w⟩ := field
      rw [Record.get?] at found
      split at found
      · rename_i same
        cases found
        rw [same]
        exact List.mem_cons_self
      · exact List.mem_cons_of_mem _ (ih found)

theorem Record.get?_of_mem {r : Record} (once : r.keys.Nodup) {key : String} {v : Value} (member : (key, v) ∈ r) :
    r.get? key = some v := by
  induction r with
  | nil => cases member
  | cons field rest ih =>
      obtain ⟨k, w⟩ := field
      have parts := List.nodup_cons.mp once
      rcases List.mem_cons.mp member with here | later
      · cases here
        exact if_pos rfl
      · have other : k ≠ key := by
          rintro rfl
          exact parts.1 (List.mem_map.mpr ⟨_, later, rfl⟩)
        exact (if_neg other).trans (ih parts.2 later)

namespace Value

-- What a JSON value is: every text keeps code points, no number is NaN or has too many digits, and no key comes twice.
mutual
def Proper : Value → Prop
  | .null => True
  | .bool _ => True
  | .int n => Json.Short n
  | .real x => x.isNan = false
  | .text s => Json.Kept s
  | .list items => ProperItems items
  | .record fields => (fields.map Prod.fst).Nodup ∧ ProperFields fields

def ProperItems : List Value → Prop
  | [] => True
  | v :: rest => Proper v ∧ ProperItems rest

def ProperFields : List (String × Value) → Prop
  | [] => True
  | (k, v) :: rest => Json.Kept k ∧ Proper v ∧ ProperFields rest
end

-- No text and no key has a high surrogate right before a low one.
mutual
def Legible : Value → Prop
  | .text s => Json.Unpaired (Text.points s.toList)
  | .list items => LegibleItems items
  | .record fields => LegibleFields fields
  | _ => True

def LegibleItems : List Value → Prop
  | [] => True
  | v :: rest => Legible v ∧ LegibleItems rest

def LegibleFields : List (String × Value) → Prop
  | [] => True
  | (k, v) :: rest => Json.Unpaired (Text.points k.toList) ∧ Legible v ∧ LegibleFields rest
end

mutual
instance decidableLegible : DecidablePred Legible
  | .null => .isTrue trivial
  | .bool _ => .isTrue trivial
  | .int _ => .isTrue trivial
  | .real _ => .isTrue trivial
  | .text s => inferInstanceAs (Decidable (Json.Unpaired (Text.points s.toList)))
  | .list items => decidableLegibleItems items
  | .record fields => decidableLegibleFields fields

instance decidableLegibleItems : DecidablePred LegibleItems
  | [] => .isTrue trivial
  | v :: rest =>
      have := decidableLegible v
      have := decidableLegibleItems rest
      inferInstanceAs (Decidable (Legible v ∧ LegibleItems rest))

instance decidableLegibleFields : DecidablePred LegibleFields
  | [] => .isTrue trivial
  | (k, v) :: rest =>
      have := decidableLegible v
      have := decidableLegibleFields rest
      inferInstanceAs (Decidable (Json.Unpaired (Text.points k.toList) ∧ Legible v ∧ LegibleFields rest))
end

theorem proper_items_iff {items : List Value} : ProperItems items ↔ ∀ v ∈ items, v.Proper := by
  induction items with
  | nil => exact ⟨fun _ => nofun, fun _ => trivial⟩
  | cons v rest ih => rw [ProperItems, ih, List.forall_mem_cons]

mutual
theorem alike_refl (v : Value) (proper : v.Proper) : v.alike v = true := by
  cases v with
  | list items => exact items_alike_refl items proper
  | record fields =>
      rw [alike, beq_self_eq_true, Bool.true_and]
      exact fields_alike_of fields proper.2 fields fun k v member => Record.get?_of_mem proper.1 member
  | null | bool | int | real | text => exact alike_self _ rfl

theorem items_alike_refl (items : List Value) (proper : ProperItems items) : itemsAlike items items = true := by
  cases items with
  | nil => rfl
  | cons v rest =>
      rw [itemsAlike, alike_refl v proper.1, items_alike_refl rest proper.2]
      rfl

theorem fields_alike_of (fields : List (String × Value)) (proper : ProperFields fields) (others : Record)
    (found : ∀ k v, (k, v) ∈ fields → Record.get? k others = some v) : fieldsAlike fields others = true := by
  match fields with
  | [] => rfl
  | (k, v) :: rest =>
      have later := fields_alike_of rest proper.2.2 others fun k w member => found k w (List.mem_cons_of_mem _ member)
      rw [fieldsAlike, found k v List.mem_cons_self, later]
      exact (Bool.and_true _).trans (alike_refl v proper.2.1)
end

end Value
end EbsiDid
