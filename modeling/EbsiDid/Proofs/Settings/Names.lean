import EbsiDid.Proofs.Json.Entries
import EbsiDid.Settings.Context
import Mathlib.Data.List.Induction
import Mathlib.Data.List.Nodup

set_option autoImplicit false

/-!
The keys of settings over their whole life. What is set one by one is set under a name; a mapping that is given is taken
over with the keys it has. An entry is read back, and a context copied, as long as the keys are texts.
-/
namespace EbsiDid

namespace Value

-- What a setting can be called.
def IsName (v : Value) : Prop := ∃ t, v = .text t ∧ t ≠ ""

theorem name_alike {k v : Value} (named : k.IsName) (same : k.alike v = true) : v.IsName := by
  obtain ⟨t, rfl, nonempty⟩ := named
  cases v <;> simp [alike, scalarsAlike, numeric?] at same
  exact ⟨_, rfl, same ▸ nonempty⟩

end Value

/-! ### Keys that are texts -/

namespace Entries

variable {α : Type}

def texts (entries : Entries α) : List String := (keys entries).filterMap Value.text?

theorem mem_texts {entries : Entries α} {s : String} : s ∈ texts entries ↔ .text s ∈ keys entries := by
  rw [texts, List.mem_filterMap]
  constructor
  · rintro ⟨k, member, read⟩
    cases k <;> cases read
    exact member
  · exact fun member => ⟨.text s, member, rfl⟩

theorem put_texts_once {entries : Entries α} (once : (texts entries).Nodup) (key : Value) (a : α) :
    (texts (put key a entries)).Nodup := by
  rw [texts, keys_put]
  split
  · exact once
  · rename_i absent
    rw [List.filterMap_append]
    cases key with
    | text s =>
        refine List.nodup_append.mpr ⟨once, List.nodup_singleton s, ?_⟩
        rintro t member _ here rfl
        rw [List.mem_singleton.mp here] at member
        exact absent ((has_iff_alike _ _).mpr ⟨_, mem_texts.mp member, Value.alike_self _ rfl⟩)
    | _ => exact (List.append_nil _).symm ▸ once

theorem update_texts_once {entries : Entries α} (once : (texts entries).Nodup) (later : Entries α) :
    (texts (update entries later)).Nodup := by
  induction later generalizing entries with
  | nil => exact once
  | cons entry rest ih => exact ih (put_texts_once once entry.1 entry.2)

theorem erase_texts_once {entries : Entries α} (once : (texts entries).Nodup) (key : Value) :
    (texts (erase key entries)).Nodup := by
  rw [texts, keys_erase]
  exact once.sublist (List.filter_sublist.filterMap _)

theorem get_of_mem {entries : Entries α} (once : (texts entries).Nodup) {s : String} {a : α} (member : (.text s, a) ∈ entries) :
    get? (.text s) entries = some a := by
  induction entries with
  | nil => cases member
  | cons entry rest ih =>
      obtain ⟨k, b⟩ := entry
      by_cases here : k.alike (.text s) = true
      · have key := Value.alike_text here
        subst key
        have fresh : s ∉ texts rest := (List.nodup_cons.mp once).1
        rcases List.mem_cons.mp member with same | later
        · cases same
          rw [get?, if_pos here]
        · exact absurd (mem_texts.mpr (List.mem_map.mpr ⟨_, later, rfl⟩)) fresh
      · rw [get?, if_neg here]
        have more : (texts rest).Nodup := once.sublist ((List.sublist_cons_self k (keys rest)).filterMap _)
        rcases List.mem_cons.mp member with same | later
        · cases same
          exact absurd (Value.alike_self _ rfl) here
        · exact ih more later

-- Entries under texts make up the very same entries when they are put one after another.
theorem update_of_texts {entries later : Entries α} (textual : ∀ k ∈ keys later, k.text?.isSome = true)
    (once : (texts (entries ++ later)).Nodup) : update entries later = entries ++ later := by
  induction later generalizing entries with
  | nil => exact (List.append_nil entries).symm
  | cons entry rest ih =>
      obtain ⟨k, a⟩ := entry
      obtain ⟨first, more⟩ := List.forall_mem_cons.mp textual
      have joined : entries ++ (k, a) :: rest = (entries ++ [(k, a)]) ++ rest := List.append_cons ..
      have absent : has k entries = false := by
        rw [Bool.eq_false_iff, Ne, has_iff_alike]
        rintro ⟨other, member, same⟩
        cases k <;> cases first
        rename_i s
        rw [Value.alike_text same] at member
        rw [texts, keys, List.map_append, List.filterMap_append] at once
        exact (List.nodup_append.mp once).2.2 s (mem_texts.mpr member) s List.mem_cons_self rfl
      rw [joined] at once ⊢
      rw [← ih more once, ← put_absent absent]
      rfl

def Named (entries : Entries α) : Prop := ∀ k ∈ keys entries, k.IsName

-- To put under a key that is no name leaves such a key there, even if one like it was there before.
theorem put_named_iff {entries : Entries α} (key : Value) (a : α) : (put key a entries).Named ↔ entries.Named ∧ key.IsName := by
  constructor
  · intro named
    rw [Named, keys_put] at named
    split at named
    · rename_i present
      obtain ⟨k, member, same⟩ := (has_iff_alike key entries).mp present
      exact ⟨named, Value.name_alike (named k member) same⟩
    · rw [List.forall_mem_append, List.forall_mem_singleton] at named
      exact named
  · rintro ⟨named, fresh⟩ k member
    rcases mem_keys_put member with before | rfl
    · exact named k before
    · exact fresh

theorem update_named_iff {entries : Entries α} (later : Entries α) :
    (update entries later).Named ↔ entries.Named ∧ later.Named := by
  induction later generalizing entries with
  | nil => exact ⟨fun named => ⟨named, nofun⟩, And.left⟩
  | cons entry rest ih =>
      obtain ⟨k, a⟩ := entry
      have next : (update (put k a entries) rest).Named ↔ _ := ih
      change (update (put k a entries) rest).Named ↔ _
      rw [next, put_named_iff, and_assoc]
      exact and_congr_right' List.forall_mem_cons.symm

end Entries

/-! ### The life of settings -/

namespace Settings

-- Settings are made of a mapping or of an environment.
inductive Origin where
  | mapping (given : Entries Value)
  | environment (values : Record)

-- What is done with them then. An item is assigned as a value is set, and deleted as a value is cleared.
inductive Use where
  | setValue (name value : Value)
  | setDefault (name value : Value)
  | getOrSet (key default : Value)
  | update (later : Entries Value)
  | extend (later : Entries Value)
  | copy
  | clearValue (name : Value)
  | pop (key : Value) (default : Option Value)

def made : Origin → Settings
  | .mapping given => ofEntries given
  | .environment values => ofEnvironment values

-- Settings afterwards, those that are new where a use makes some. One that fails leaves them as they were.
def use (s : Settings) : Use → Settings
  | .setValue name value => (s.setValue name value).toOption.getD s
  | .setDefault name value => (s.setDefault name value).toOption.getD s
  | .getOrSet key default => ((s.getOrSet key default).map Prod.snd).toOption.getD s
  | .update later => s.update later
  | .extend later => s.update later
  | .copy => ofEntries s.entries
  | .clearValue name => (s.clearValue name).toOption.getD s
  | .pop key default => ((s.pop key default).map Prod.snd).toOption.getD s

def reached (origin : Origin) (uses : List Use) : Settings := uses.foldl use (made origin)

-- The keys of the mappings that are given.
def Origin.given : Origin → List Value
  | .mapping given => Entries.keys given
  | .environment _ => []

def Use.given : Use → List Value
  | .update later => Entries.keys later
  | .extend later => Entries.keys later
  | _ => []

-- All that a use can come to.
inductive Becomes (s : Settings) : List Value → Settings → Prop where
  | kept : Becomes s [] s
  | put {name : Value} (named : name.IsName) (value : Value) : Becomes s [] (s.put name value)
  | removed (key : Value) : Becomes s [] (s.remove key)
  | copied : Becomes s [] (ofEntries s.entries)
  | updated (later : Entries Value) : Becomes s (Entries.keys later) (s.update later)

theorem set_value_becomes (s : Settings) (name value : Value) : Becomes s [] ((s.setValue name value).toOption.getD s) := by
  unfold setValue
  split
  · split
    · exact .kept
    · rename_i nonempty
      exact .put ⟨_, rfl, nonempty⟩ value
  · exact .kept

theorem set_default_becomes (s : Settings) (name value : Value) :
    Becomes s [] ((s.setDefault name value).toOption.getD s) := by
  unfold setDefault
  cases s.contains name with
  | error e => exact .kept
  | ok found =>
      cases found with
      | true => exact .kept
      | false => exact set_value_becomes s name value

theorem get_or_set_becomes (s : Settings) (key default : Value) :
    Becomes s [] (((s.getOrSet key default).map Prod.snd).toOption.getD s) := by
  cases key with
  | text t =>
      have set := set_value_becomes s (.text t) default
      cases present : s.get? (.text t) with
      | some v =>
          simp only [getOrSet, index, present]
          exact .kept
      | none =>
          simp only [getOrSet, index, present]
          cases outcome : s.setValue (.text t) default <;> rw [outcome] at set <;> exact set
  | _ => exact .kept

theorem pop_becomes (s : Settings) (key : Value) (default : Option Value) :
    Becomes s [] (((s.pop key default).map Prod.snd).toOption.getD s) := by
  cases key with
  | text t =>
      cases present : s.get? (.text t) with
      | some v =>
          simp only [pop, index, present]
          exact .removed _
      | none =>
          simp only [pop, index, present]
          cases default <;> exact .kept
  | _ => cases default <;> exact .kept

theorem use_becomes (s : Settings) (u : Use) : Becomes s u.given (s.use u) := by
  cases u with
  | setValue name value => exact set_value_becomes s name value
  | setDefault name value => exact set_default_becomes s name value
  | getOrSet key default => exact get_or_set_becomes s key default
  | update later => exact .updated later
  | extend later => exact .updated later
  | copy => exact .copied
  | clearValue name =>
      change Becomes s [] ((s.clearValue name).toOption.getD s)
      unfold clearValue
      split
      · exact .removed name
      · exact .kept
  | pop key default => exact pop_becomes s key default

/-! ### What stays so -/

section

variable {s t : Settings} {given : List Value}

-- No text is a key twice.
def Once (s : Settings) : Prop := (Entries.texts s.entries).Nodup

theorem becomes_once (becomes : Becomes s given t) (once : s.Once) : t.Once := by
  cases becomes with
  | kept => exact once
  | put named value => exact Entries.put_texts_once once _ value
  | removed key => exact Entries.erase_texts_once once key
  | copied =>
      have none : (Entries.texts ([] : Entries Value)).Nodup := List.nodup_nil
      exact Entries.update_texts_once none s.entries
  | updated later => exact Entries.update_texts_once once later

theorem becomes_keys (becomes : Becomes s given t) {k : Value} (member : k ∈ Entries.keys t.entries) :
    k ∈ Entries.keys s.entries ∨ k.IsName ∨ k ∈ given := by
  cases becomes with
  | kept => exact .inl member
  | put named value =>
      rcases Entries.mem_keys_put member with before | rfl
      · exact .inl before
      · exact .inr (.inl named)
  | removed key => exact .inl (Entries.mem_keys_erase member)
  | copied => exact .inl ((Entries.mem_keys_update member).resolve_left (List.not_mem_nil))
  | updated later => exact (Entries.mem_keys_update member).imp_right .inr

theorem becomes_named_iff (becomes : Becomes s given t) (named : s.entries.Named) :
    t.entries.Named ↔ ∀ k ∈ given, k.IsName := by
  cases becomes with
  | kept => exact ⟨fun _ => nofun, fun _ => named⟩
  | put fresh value => exact ⟨fun _ => nofun, fun _ => (Entries.put_named_iff _ value).mpr ⟨named, fresh⟩⟩
  | removed key => exact ⟨fun _ => nofun, fun _ k member => named k (Entries.mem_keys_erase member)⟩
  | copied => exact ⟨fun _ => nofun, fun _ => (Entries.update_named_iff _).mpr ⟨nofun, named⟩⟩
  | updated later => exact (Entries.update_named_iff later).trans (and_iff_right named)

end

theorem made_becomes (origin : Origin) : ∃ given, (∀ k ∈ given, k.IsName ∨ k ∈ origin.given) ∧
    Becomes empty given (made origin) := by
  cases origin with
  | mapping given => exact ⟨_, fun _ member => .inr member, .updated given⟩
  | environment values =>
      refine ⟨_, ?_, .updated _⟩
      intro k member
      obtain ⟨entry, among, rfl⟩ := List.mem_map.mp member
      obtain ⟨⟨name, key⟩, known, found⟩ := List.mem_filterMap.mp among
      have nonempty : ∀ named ∈ environmentNames, named.2 ≠ "" := by decide
      have keyed : entry.1 = .text key := by
        simp only at found
        split at found <;> cases found
        rfl
      exact .inl ⟨key, keyed, nonempty _ known⟩

theorem made_named_iff (origin : Origin) : (made origin).entries.Named ↔ ∀ k ∈ origin.given, k.IsName := by
  obtain ⟨given, known, becomes⟩ := made_becomes origin
  cases origin with
  | mapping entries => exact becomes_named_iff (.updated entries) nofun
  | environment values =>
      refine ⟨fun _ => nofun, fun _ => (becomes_named_iff becomes nofun).mpr ?_⟩
      exact fun k member => (known k member).resolve_right List.not_mem_nil

theorem reached_kept (origin : Origin) (uses : List Use) : (reached origin uses).Once ∧
    ∀ k ∈ Entries.keys (reached origin uses).entries, k.IsName ∨ k ∈ origin.given ++ uses.flatMap Use.given := by
  induction uses using List.reverseRecOn with
  | nil =>
      obtain ⟨given, known, becomes⟩ := made_becomes origin
      refine ⟨becomes_once becomes List.nodup_nil, ?_⟩
      intro k member
      rcases becomes_keys becomes member with before | named | among
      · cases before
      · exact .inl named
      · rw [List.flatMap_nil, List.append_nil]
        exact known k among
  | append_singleton front last ih =>
      obtain ⟨once, known⟩ := ih
      have next : reached origin (front ++ [last]) = (reached origin front).use last := by
        rw [reached, List.foldl_append]
        rfl
      have becomes := use_becomes (reached origin front) last
      rw [next, List.flatMap_append, List.flatMap_singleton, ← List.append_assoc]
      refine ⟨becomes_once becomes once, ?_⟩
      intro k member
      rcases becomes_keys becomes member with before | named | among
      · exact (known k before).imp_right (List.mem_append_left _)
      · exact .inl named
      · exact .inr (List.mem_append_right _ among)

/-! ### What can be read -/

def textual (s : Settings) : Bool := s.entries.all fun entry => entry.1.text?.isSome

theorem index_stored {s : Settings} (once : s.Once) {entry : Value × Value} (stored : entry ∈ s.entries) :
    s.index entry.1 = if entry.1.text?.isSome then .ok entry.2 else .error .indexNotText := by
  obtain ⟨k, v⟩ := entry
  cases k with
  | text t =>
      have found : s.get? (.text t) = some v := Entries.get_of_mem once stored
      simp only [index, found]
      rfl
  | _ => rfl

theorem items_stored {s : Settings} (once : s.Once) :
    s.items = if s.textual then .ok s.entries else .error .indexNotText := by
  have each : ∀ entry ∈ s.entries, (s.index entry.1).map (fun v => (entry.1, v)) =
      if entry.1.text?.isSome then .ok (id entry) else .error .indexNotText := by
    intro entry stored
    rw [index_stored once stored]
    split <;> rfl
  rw [items, map_guarded each, List.map_id]
  rfl

theorem copy_stored {κ ι : Type} {c : Context κ ι} (once : c.settings.Once) :
    c.copy = if c.settings.textual then .ok c else .error .indexNotText := by
  have remade : c.settings.textual = true → ofEntries c.settings.entries = c.settings := by
    intro textual
    have keyed : ∀ k ∈ Entries.keys c.settings.entries, k.text?.isSome = true := by
      intro k member
      obtain ⟨entry, stored, rfl⟩ := List.mem_map.mp member
      exact List.all_eq_true.mp textual entry stored
    exact congrArg Settings.mk (Entries.update_of_texts keyed once)
  rw [Context.copy, items_stored once]
  cases texts : c.settings.textual with
  | false => rfl
  | true =>
      change Except.ok (⟨ofEntries c.settings.entries, c.bindings⟩ : Context κ ι) = .ok c
      rw [remade texts]

-- Settings as all code that reads them takes them to be.
structure Lawful (s : Settings) : Prop where
  named : s.entries.Named
  read : ∀ entry ∈ s.entries, s.index entry.1 = .ok entry.2
  items : s.items = .ok s.entries
  copied : ∀ {κ ι : Type} (c : Context κ ι), c.settings = s → c.copy = .ok c

theorem lawful_of_named {s : Settings} (once : s.Once) (named : s.entries.Named) : s.Lawful := by
  have keyed : ∀ entry ∈ s.entries, entry.1.text?.isSome = true := by
    intro entry stored
    obtain ⟨t, key, _⟩ := named _ (List.mem_map.mpr ⟨entry, stored, rfl⟩)
    rw [key]
    rfl
  have textual : s.textual = true := List.all_eq_true.mpr keyed
  refine ⟨named, ?_, ?_, ?_⟩
  · intro entry stored
    rw [index_stored once stored, if_pos (keyed entry stored)]
  · rw [items_stored once, if_pos textual]
  · rintro κ ι c rfl
    rw [copy_stored once, if_pos textual]

-- What holds of settings, by the keys of the mappings that they were given.
structure Accounted (given : List Value) (s : Settings) : Prop where
  keys : ∀ k ∈ Entries.keys s.entries, k.IsName ∨ k ∈ given
  lawful : (∀ k ∈ given, k.IsName) → s.Lawful
  read : ∀ entry ∈ s.entries, s.index entry.1 = if entry.1.text?.isSome then .ok entry.2 else .error .indexNotText
  items : s.items = if s.textual then .ok s.entries else .error .indexNotText
  copied : ∀ {κ ι : Type} (c : Context κ ι), c.settings = s →
    c.copy = if s.textual then .ok c else .error .indexNotText

-- The one way for a key that is no name is to be given in a mapping.
theorem keys_accounted (origin : Origin) (uses : List Use) :
    Accounted (origin.given ++ uses.flatMap Use.given) (reached origin uses) ∧
    (∀ origin, (made origin).entries.Named ↔ ∀ k ∈ origin.given, k.IsName) ∧
    ∀ (s : Settings) (u : Use), s.entries.Named → ((s.use u).entries.Named ↔ ∀ k ∈ u.given, k.IsName) := by
  obtain ⟨once, known⟩ := reached_kept origin uses
  have lawful : (∀ k ∈ origin.given ++ uses.flatMap Use.given, k.IsName) → (reached origin uses).Lawful := by
    intro names
    exact lawful_of_named once fun k member => (known k member).elim id (names k)
  refine ⟨⟨known, lawful, fun entry => index_stored once, items_stored once, ?_⟩, made_named_iff, ?_⟩
  · rintro κ ι c same
    rw [← same] at once ⊢
    exact copy_stored once
  · exact fun s u named => becomes_named_iff (use_becomes s u) named

-- The empty text is no name, and what is no text is not even read back.
theorem unnamed_keys_taken :
    ¬ (reached (.mapping [(.text "", .int 1)]) []).entries.Named ∧
    ¬ (reached (.mapping []) [.update [(.text "", .int 1)]]).entries.Named ∧
    (let s := reached (.mapping []) [.extend [(.int 1, .text "x")]]
     s.items = .error .indexNotText ∧ (Context.ofSettings s : Context Unit Unit).copy = .error .indexNotText) := by
  have unnamed : ∀ s : Settings, .text "" ∈ Entries.keys s.entries → ¬ s.entries.Named := by
    intro s member named
    obtain ⟨t, same, nonempty⟩ := named _ member
    cases same
    exact nonempty rfl
  exact ⟨unnamed _ List.mem_cons_self, unnamed _ List.mem_cons_self, rfl, rfl⟩

end Settings
end EbsiDid
