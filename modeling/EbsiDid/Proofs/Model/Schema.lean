import EbsiDid.Model.Schema
import EbsiDid.Proofs.Json.Proper

set_option autoImplicit false

/-!
A schema reads what it wrote, if each of its fields does: a field that writes nothing may be missing, and one that
writes a value takes it back. No member is left over, whatever is to become of those.
-/
namespace EbsiDid.Schema

section Fields

variable {kind : Type} {read : kind → Value → Except Fault Value} {dump : kind → Value → Value} {a : Record}

-- Keys that tell the members apart, in a JSON text as well.
structure Shape.Distinct (s : Shape kind) : Prop where
  once : (s.fields.map (·.key)).Nodup
  kept : ∀ f ∈ s.fields, Json.Kept f.key

-- What a field writes of the attributes.
def written (dump : kind → Value → Value) (a : Record) (f : Field kind) : Option Value :=
  if f.loadOnly then none else ((a.get? f.name).map (dump f.kind)).filter fun w => !w.isNull

def entries (dump : kind → Value → Value) (a : Record) (fields : List (Field kind)) : Record :=
  fields.filterMap fun f => (written dump a f).map fun w => (f.key, w)

theorem dump_entries (s : Shape kind) : s.dump dump a = entries dump a s.fields := by
  unfold Shape.dump entries written
  congr 1
  funext f
  cases f.loadOnly with
  | true => rfl
  | false =>
      cases a.get? f.name with
      | none => rfl
      | some v => cases null : (dump f.kind v).isNull <;> simp [null]

theorem written_not_null {f : Field kind} {w : Value} (writes : written dump a f = some w) : w.isNull = false := by
  unfold written at writes
  split at writes
  · cases writes
  · exact Bool.not_eq_true' _ ▸ (Option.filter_eq_some_iff.mp writes).2

-- The fields write values that a reader takes back, as the attributes `good`.
inductive Restored (read : kind → Value → Except Fault Value) (dump : kind → Value → Value) (a : Record) :
    List (Field kind) → Record → Prop
  | nil : Restored read dump a [] []
  | missing {f : Field kind} {rest : List (Field kind)} {good : Record} :
      written dump a f = none → f.required = false → f.default = none → Restored read dump a rest good →
      Restored read dump a (f :: rest) good
  | found {f : Field kind} {rest : List (Field kind)} {good : Record} {w v : Value} :
      written dump a f = some w → w.Proper → read f.kind w = .ok v → Restored read dump a rest good →
      Restored read dump a (f :: rest) ((f.name, v) :: good)

theorem entries_cons (f : Field kind) (rest : List (Field kind)) : entries dump a (f :: rest) =
    ((written dump a f).map fun w => (f.key, w)).toList ++ entries dump a rest := by
  unfold entries
  rw [List.filterMap_cons]
  cases written dump a f <;> rfl

theorem entries_keys (fields : List (Field kind)) : (entries dump a fields).keys.Sublist (fields.map (·.key)) := by
  induction fields with
  | nil => exact .slnil
  | cons f rest ih =>
      rw [entries_cons]
      cases written dump a f with
      | none => exact .cons _ ih
      | some w => exact .cons_cons _ ih

theorem mem_entries {fields : List (Field kind)} {key : String} {w : Value} :
    (key, w) ∈ entries dump a fields ↔ ∃ f ∈ fields, written dump a f = some w ∧ f.key = key := by
  simp [entries, List.mem_filterMap, Option.map_eq_some_iff]

theorem get?_entries {fields : List (Field kind)} (once : (fields.map (·.key)).Nodup) {f : Field kind} (member : f ∈ fields) :
    (entries dump a fields).get? f.key = written dump a f := by
  apply Option.ext
  intro w
  constructor
  · intro found
    obtain ⟨g, inside, writes, same⟩ := mem_entries.mp (Record.mem_of_get? found)
    rwa [List.inj_on_of_nodup_map once inside member same] at writes
  · intro writes
    exact Record.get?_of_mem ((entries_keys fields).nodup once) (mem_entries.mpr ⟨f, member, writes, rfl⟩)

theorem read_field {f : Field kind} {data : Record} {w : Value} (found : data.get? f.key = some w) (value : w.isNull = false) :
    readField read f data = (read f.kind w).map some := by
  rw [readField, found]
  cases w with
  | null => cases value
  | bool | int | real | text | list | record => rfl

theorem read_field_given {f : Field kind} {data : Record} {w v : Value} (found : data.get? f.key = some w)
    (value : w.isNull = false) (reads : read f.kind w = .ok v) : readField read f data = .ok (some v) := by
  rw [read_field found value, reads]
  rfl

theorem read_field_refused {f : Field kind} {data : Record} {w messages : Value} (found : data.get? f.key = some w)
    (value : w.isNull = false) (refuses : read f.kind w = .error (.invalid messages)) :
    readField read f data = .error (.invalid messages) := by
  rw [read_field found value, refuses]
  rfl

theorem read_field_absent {f : Field kind} {data : Record} (absent : data.get? f.key = none) (optional : f.required = false) :
    readField read f data = .ok f.default := by
  rw [readField, absent, optional]
  rfl

-- Field by field: what is read of the data, as attributes `good`, and what is refused, as messages `bad`.
inductive Reads (read : kind → Value → Except Fault Value) (data : Record) :
    List (Field kind) → Record → Record → Prop
  | nil : Reads read data [] [] []
  | absent {f : Field kind} {rest : List (Field kind)} {good bad : Record} :
      readField read f data = .ok none → Reads read data rest good bad → Reads read data (f :: rest) good bad
  | given {f : Field kind} {rest : List (Field kind)} {good bad : Record} {v : Value} :
      readField read f data = .ok (some v) → Reads read data rest good bad →
      Reads read data (f :: rest) ((f.name, v) :: good) bad
  | refused {f : Field kind} {rest : List (Field kind)} {good bad : Record} {messages : Value} :
      readField read f data = .error (.invalid messages) → Reads read data rest good bad →
      Reads read data (f :: rest) good ((f.key, messages) :: bad)

theorem fields_read {fields : List (Field kind)} {data good bad : Record} (reads : Reads read data fields good bad) :
    readFields read data fields = .ok (good, bad) := by
  induction reads with
  | nil => rfl
  | absent here _ ih => rw [readFields, here, ih]
  | given here _ ih =>
      rw [readFields, here, ih]
      rfl
  | refused here _ ih =>
      rw [readFields, here, ih]
      rfl

-- Where members that no field names are dropped, the fields alone decide.
theorem shape_read {s : Shape kind} {data good bad : Record} (reads : Reads read data s.fields good bad) :
    s.read read .drop (.record data) = if bad.isEmpty then .ok good else .error (.invalid (.record bad)) := by
  rw [Shape.read, fields_read reads]
  change (if (bad ++ []).isEmpty = true then Except.ok good else .error (Fault.invalid (.record (bad ++ [])))) = _
  rw [List.append_nil]

theorem read_fields {fields : List (Field kind)} {good data : Record} (restored : Restored read dump a fields good)
    (found : ∀ f ∈ fields, data.get? f.key = written dump a f) : readFields read data fields = .ok (good, []) := by
  refine fields_read ?_
  induction restored with
  | nil => exact .nil
  | @missing f rest good nothing optional default _ ih =>
      refine .absent ?_ (ih fun g member => found g (List.mem_cons_of_mem _ member))
      rw [read_field_absent ((found f List.mem_cons_self).trans nothing) optional, default]
  | @found f rest good w v writes _ reads _ ih =>
      have here := (found f List.mem_cons_self).trans writes
      exact .given (read_field_given here (written_not_null writes) reads)
        (ih fun g member => found g (List.mem_cons_of_mem _ member))

theorem extras_entries (s : Shape kind) : s.extras (entries dump a s.fields) = [] := by
  unfold Shape.extras
  rw [List.filter_eq_nil_iff]
  rintro ⟨key, w⟩ inside
  obtain ⟨f, member, _, same⟩ := mem_entries.mp inside
  rw [Bool.not_eq_true', Bool.not_eq_false]
  exact List.any_eq_true.mpr ⟨f, member, beq_iff_eq.mpr same⟩

-- A written record reads back.
theorem read_dumped {s : Shape kind} (distinct : s.Distinct) {good : Record}
    (restored : Restored read dump a s.fields good) (unknown : Unknown) :
    s.read read unknown (.record (s.dump dump a)) = .ok good := by
  rw [dump_entries, Shape.read, read_fields restored fun f member => get?_entries distinct.once member, extras_entries]
  cases unknown <;> rfl

theorem entries_proper {fields : List (Field kind)} (kept : ∀ f ∈ fields, Json.Kept f.key) {good : Record}
    (restored : Restored read dump a fields good) : Value.ProperFields (entries dump a fields) := by
  induction restored with
  | nil => trivial
  | @missing f rest good nothing _ _ _ ih =>
      rw [entries_cons, nothing]
      exact ih (List.forall_mem_cons.mp kept).2
  | @found f rest good w v writes proper _ _ ih =>
      rw [entries_cons, writes]
      exact ⟨kept f List.mem_cons_self, proper, ih (List.forall_mem_cons.mp kept).2⟩

theorem dumped_proper {s : Shape kind} (distinct : s.Distinct) {good : Record}
    (restored : Restored read dump a s.fields good) : (Value.record (s.dump dump a)).Proper := by
  rw [dump_entries]
  exact ⟨(entries_keys s.fields).nodup distinct.once, entries_proper distinct.kept restored⟩

end Fields

/-! ### Shapes within shapes -/

theorem distinct_nesting {s : Shape FieldKind} (distinct : s.Distinct) : s.nesting.Distinct := by
  refine ⟨?_, List.forall_mem_map.mpr distinct.kept⟩
  rw [Shape.nesting, List.map_map]
  exact distinct.once

-- The fields of a shape that stands alone are read and written as those of one that is nested.
theorem restored_nesting {a : Record} {fields : List (Field FieldKind)} {good : Record}
    (restored : Restored FieldKind.read FieldKind.dump a fields good) :
    Restored Nesting.read Nesting.dump a (fields.map fun f => { f with kind := .simple f.kind }) good := by
  induction restored with
  | nil => exact .nil
  | missing nothing optional default _ ih => exact .missing nothing optional default ih
  | found writes proper reads _ ih => exact .found writes proper reads ih

theorem read_each {read : Value → Except Fault Value} {items results : List Value}
    (each : List.Forall₂ (fun v w => read v = .ok w) items results) (i : Nat) : readEach read i items = .ok (results, []) := by
  induction each generalizing i with
  | nil => rfl
  | cons reads _ ih =>
      rw [readEach, reads, ih]
      rfl

-- Where every member is refused, there is a message for each, by its position.
theorem read_each_refused {read : Value → Except Fault Value} {messages : Value} {items : List Value}
    (each : ∀ v ∈ items, read v = .error (.invalid messages)) (i : Nat) :
    readEach read i items = .ok ([], (List.range' i items.length).map fun j => (Number.text j, messages)) := by
  induction items generalizing i with
  | nil => rfl
  | cons v rest ih =>
      obtain ⟨here, later⟩ := List.forall_mem_cons.mp each
      rw [readEach, here, ih later, List.length_cons, List.range'_succ]
      rfl

section Records

variable {s : Shape FieldKind} {α : Type} {attributes : α → Record} {items : List α} {goods : List Record}

-- Members of a nested list, each with the attributes that are read of it.
def RestoredEach (s : Shape FieldKind) (attributes : α → Record) (items : List α) (goods : List Record) : Prop :=
  List.Forall₂ (fun m good => Restored FieldKind.read FieldKind.dump (attributes m) s.fields good) items goods

theorem dump_records (items : List α) : Nesting.dump (.records s) (.list (items.map fun m => .record (attributes m))) =
    .list (items.map fun m => .record (s.dump FieldKind.dump (attributes m))) := by
  rw [Nesting.dump, List.map_map]
  rfl

theorem read_records (distinct : s.Distinct) (restored : RestoredEach s attributes items goods) :
    Nesting.read (.records s) (.list (items.map fun m => .record (s.dump FieldKind.dump (attributes m)))) =
      .ok (.list (goods.map .record)) := by
  have each : List.Forall₂ (fun v w =>
      notNull (fun item => (s.read FieldKind.read s.unknown item).map Value.record) v = .ok w)
      (items.map fun m => .record (s.dump FieldKind.dump (attributes m))) (goods.map .record) := by
    rw [List.forall₂_map_left_iff, List.forall₂_map_right_iff]
    refine restored.imp fun m good back => ?_
    have record : (Value.record (s.dump FieldKind.dump (attributes m))).isNull = false := rfl
    rw [notNull, record, if_neg Bool.false_ne_true, read_dumped distinct back]
    rfl
  rw [Nesting.read, readList, read_each each]

theorem records_proper (distinct : s.Distinct) (restored : RestoredEach s attributes items goods) :
    (Value.list (items.map fun m => .record (s.dump FieldKind.dump (attributes m)))).Proper := by
  unfold RestoredEach at restored
  rw [Value.Proper]
  induction restored with
  | nil => trivial
  | cons back _ ih => exact ⟨dumped_proper distinct back, ih⟩

theorem restored_each {make : Record → Except Error α} (each : ∀ m ∈ items, ∃ good,
    Restored FieldKind.read FieldKind.dump (attributes m) s.fields good ∧ make good = .ok m) :
    ∃ goods, RestoredEach s attributes items goods ∧ goods.mapM make = .ok items := by
  induction items with
  | nil => exact ⟨[], .nil, rfl⟩
  | cons m rest ih =>
      obtain ⟨⟨good, back, made⟩, later⟩ := List.forall_mem_cons.mp each
      obtain ⟨goods, restored, all_made⟩ := ih later
      refine ⟨good :: goods, .cons back restored, ?_⟩
      rw [List.mapM_cons, made, all_made]
      rfl

end Records

end EbsiDid.Schema
