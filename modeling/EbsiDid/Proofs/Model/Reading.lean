import EbsiDid.Model.Basic
import EbsiDid.Proofs.Model.Schema

set_option autoImplicit false

/-!
What comes of a value that a schema reads. An error escapes only where a field lets one escape, so that it is known
from the value alone; and the attributes that are read are those of the fields, the required ones among them.
-/
namespace EbsiDid

theorem Record.found_of_mem {r : Record} {key : String} {v : Value} (member : (key, v) ∈ r) : ∃ w, r.get? key = some w := by
  induction r with
  | nil => cases member
  | cons field rest ih =>
      obtain ⟨k, w⟩ := field
      rw [Record.get?]
      split
      · exact ⟨w, rfl⟩
      · rename_i other
        rcases List.mem_cons.mp member with here | later
        · cases here
          exact absurd rfl other
        · exact ih later

namespace Schema

/-! ### What escapes -/

section Escapes

variable {α β γ : Type} {read : α → Except Fault β} {trips : α → Prop}

-- On just these values an error escapes from a reader, and it is that of a wrong type.
def EscapesOn (read : α → Except Fault β) (trips : α → Prop) : Prop :=
  ∀ v e, read v = .error (.escaping e) ↔ e = .wrongType ∧ trips v

theorem map_error_iff {ε : Type} (x : Except ε α) (f : α → β) (e : ε) : x.map f = .error e ↔ x = .error e := by
  cases x <;> simp [Except.map]

theorem escapes_map (escapes : EscapesOn read trips) (f : β → γ) : EscapesOn (fun v => (read v).map f) trips :=
  fun v e => (map_error_iff (read v) f (.escaping e)).trans (escapes v e)

theorem escapes_never (never : ∀ v e, read v ≠ .error (.escaping e)) : EscapesOn read fun _ => False :=
  fun v e => ⟨fun escaped => absurd escaped (never v e), fun nothing => nothing.2.elim⟩

end Escapes

section Lists

variable {read : Value → Except Fault Value} {trips : Value → Prop}

theorem escapes_not_null (escapes : EscapesOn read trips) : EscapesOn (notNull read) fun v => v.isNull = false ∧ trips v := by
  intro v e
  cases null : v.isNull with
  | true => simp [notNull, null, Fault.say]
  | false => simpa [notNull, null] using escapes v e

-- The first value on which an error escapes ends the reading, whatever was refused before.
theorem read_each_error_iff (escapes : EscapesOn read trips) (i : Nat) (items : List Value) (e : Error) :
    readEach read i items = .error e ↔ e = .wrongType ∧ ∃ item ∈ items, trips item := by
  induction items generalizing i with
  | nil => simp [readEach]
  | cons v rest ih =>
      rw [readEach, List.exists_mem_cons_iff]
      by_cases trip : trips v
      · have reads := (escapes v .wrongType).mpr ⟨rfl, trip⟩
        simp [reads, trip, eq_comm]
      · cases reads : read v with
        | ok w => simp only [map_error_iff, ih, trip, false_or]
        | error fault =>
            cases fault with
            | invalid messages => simp only [map_error_iff, ih, trip, false_or]
            | escaping cause => exact absurd ((escapes v cause).mp reads).2 trip

theorem escapes_list (escapes : EscapesOn read trips) :
    EscapesOn (readList read) fun v => ∃ items, v = .list items ∧ ∃ item ∈ items, trips item := by
  intro v e
  cases v with
  | list items =>
      have each := read_each_error_iff escapes 0 items e
      have passes : readList read (.list items) = .error (.escaping e) ↔ readEach read 0 items = .error e := by
        rw [readList]
        split <;> simp_all
      rw [passes, each]
      simp
  | _ => simp [readList, Fault.say]

end Lists

section Shapes

variable {kind : Type} {read : kind → Value → Except Fault Value} {trips : kind → Value → Prop}

-- The member of a field, if it is there and is not null, trips the field.
def Field.Trips (trips : kind → Value → Prop) (f : Field kind) (data : Record) : Prop :=
  ∃ v, data.get? f.key = some v ∧ v.isNull = false ∧ trips f.kind v

def Shape.Trips (trips : kind → Value → Prop) (s : Shape kind) (v : Value) : Prop :=
  ∃ data, v = .record data ∧ ∃ f ∈ s.fields, f.Trips trips data

theorem escapes_field (escapes : ∀ k, EscapesOn (read k) (trips k)) (f : Field kind) :
    EscapesOn (readField read f) (f.Trips trips) := by
  intro data e
  unfold readField Field.Trips
  cases data.get? f.key with
  | none => cases f.required <;> simp [Fault.say]
  | some v =>
      cases v with
      | null => cases f.nullable <;> simp [Fault.say, Value.isNull]
      | _ => simpa [map_error_iff, Value.isNull] using escapes f.kind _ e

theorem read_fields_error_iff (escapes : ∀ k, EscapesOn (read k) (trips k)) (fields : List (Field kind)) (data : Record)
    (e : Error) : readFields read data fields = .error e ↔ e = .wrongType ∧ ∃ f ∈ fields, f.Trips trips data := by
  induction fields with
  | nil => simp [readFields]
  | cons f rest ih =>
      have here := escapes_field escapes f data
      rw [readFields, List.exists_mem_cons_iff]
      by_cases trip : f.Trips trips data
      · have reads := (here .wrongType).mpr ⟨rfl, trip⟩
        simp [reads, trip, eq_comm]
      · cases reads : readField read f data with
        | ok found => cases found <;> simp only [map_error_iff, ih, trip, false_or]
        | error fault =>
            cases fault with
            | invalid messages => simp only [map_error_iff, ih, trip, false_or]
            | escaping cause => exact absurd ((here cause).mp reads).2 trip

theorem escapes_shape (escapes : ∀ k, EscapesOn (read k) (trips k)) (s : Shape kind) (unknown : Unknown) :
    EscapesOn (s.read read unknown) (s.Trips trips) := by
  intro v e
  cases v with
  | record data =>
      have fields := read_fields_error_iff escapes s.fields data e
      have passes : s.read read unknown (.record data) = .error (.escaping e) ↔ readFields read data s.fields = .error e := by
        simp only [Shape.read]
        cases readFields read data s.fields with
        | error cause => simp
        | ok parts => cases unknown <;> dsimp only <;> split <;> simp
      rw [passes, fields]
      simp [Shape.Trips]
  | _ => simp [Shape.read, Shape.Trips]

end Shapes

/-! ### Fields of each kind -/

-- Purposes that are no list, text or record cannot be gone through.
def FieldKind.Trips (k : FieldKind) (v : Value) : Prop := k = .purposeNames ∧ v.items? = none

-- The records of a list are read one by one.
def Nesting.Trips : Nesting → Value → Prop
  | .simple k, v => k.Trips v
  | .records shape, v => ∃ items, v = .list items ∧ ∃ item ∈ items, item.isNull = false ∧ shape.Trips FieldKind.Trips item

theorem purpose_name_kept (v : Value) (e : Error) : readPurposeName v ≠ .error (.escaping e) := by
  cases v with
  | text s =>
      simp only [readPurposeName, readText, bind, Except.bind]
      split <;> simp [Fault.say, pure, Except.pure]
  | _ => simp [readPurposeName, readText, Fault.say, bind, Except.bind]

theorem purpose_names_escape (v : Value) (e : Error) :
    readPurposeNames v = .error (.escaping e) ↔ e = .wrongType ∧ v.items? = none := by
  rw [readPurposeNames]
  cases v.items? with
  | none => simp [eq_comm]
  | some items =>
      dsimp only
      split <;> simp [Fault.say]

theorem escapes_kind (k : FieldKind) : EscapesOn k.read k.Trips := by
  intro v e
  cases k with
  | purposeNames => simpa [FieldKind.Trips, FieldKind.read] using purpose_names_escape v e
  | purposeList =>
      have list := escapes_list (escapes_not_null (escapes_never purpose_name_kept)) v e
      simpa [FieldKind.Trips, FieldKind.read] using list
  | text => cases v <;> simp [FieldKind.read, readText, Fault.say, FieldKind.Trips]
  | flag =>
      simp only [FieldKind.read]
      split <;> simp [Fault.say, FieldKind.Trips]
  | anything => simp [FieldKind.read, FieldKind.Trips]
  | keyType =>
      simp only [FieldKind.read]
      split <;> simp [Fault.say, FieldKind.Trips]

theorem escapes_nesting (k : Nesting) : EscapesOn k.read k.Trips := by
  cases k with
  | simple k => exact escapes_kind k
  | records shape => exact escapes_list (escapes_not_null (escapes_map (escapes_shape escapes_kind shape shape.unknown) _))

/-! ### What is read -/

section Filled

variable {kind : Type} {read : kind → Value → Except Fault Value}

-- What a field can give: its default, null if it may be null, or what was read.
def Field.Gives (read : kind → Value → Except Fault Value) (f : Field kind) (v : Value) : Prop :=
  f.default = some v ∨ (f.nullable = true ∧ v = .null) ∨ ∃ w, read f.kind w = .ok v

-- Attributes that the fields give, the required ones among them.
structure Filled (read : kind → Value → Except Fault Value) (fields : List (Field kind)) (a : Record) : Prop where
  given : ∀ name v, (name, v) ∈ a → ∃ f ∈ fields, f.name = name ∧ f.Gives read v
  required : ∀ f ∈ fields, f.required = true → ∃ v, (f.name, v) ∈ a

theorem read_field_gives {f : Field kind} {data : Record} {found : Option Value} (reads : readField read f data = .ok found) :
    (found = none → f.required = false) ∧ ∀ v, found = some v → f.Gives read v := by
  unfold readField at reads
  split at reads
  · split at reads
    · cases reads
    · rename_i optional
      cases reads
      exact ⟨fun _ => Bool.eq_false_of_not_eq_true optional, fun v default => .inl default⟩
  · split at reads
    · rename_i nullable
      cases reads
      exact ⟨nofun, fun v null => .inr (.inl ⟨nullable, (Option.some.inj null).symm⟩)⟩
    · cases reads
  · rename_i w _ _
    cases value : read f.kind w with
    | error fault =>
        rw [value] at reads
        cases reads
    | ok v =>
        rw [value] at reads
        cases reads
        exact ⟨nofun, fun v same => .inr (.inr ⟨w, value.trans (congrArg _ (Option.some.inj same))⟩)⟩

theorem filled_cons {f : Field kind} {rest : List (Field kind)} {a : Record} {found : Option Value}
    (filled : Filled read rest a) (absent : found = none → f.required = false) (gives : ∀ v, found = some v → f.Gives read v) :
    Filled read (f :: rest) ((found.map fun v => (f.name, v)).toList ++ a) := by
  constructor
  · intro name v member
    rcases List.mem_append.mp member with here | later
    · simp only [Option.mem_toList, Option.map_eq_some_iff, Prod.mk.injEq] at here
      obtain ⟨w, found, rfl, rfl⟩ := here
      exact ⟨f, List.mem_cons_self, rfl, gives w found⟩
    · obtain ⟨g, inside, same, given⟩ := filled.given name v later
      exact ⟨g, List.mem_cons_of_mem _ inside, same, given⟩
  · intro g member needed
    rcases List.mem_cons.mp member with rfl | inside
    · cases found with
      | none => cases needed.symm.trans (absent rfl)
      | some v => exact ⟨v, List.mem_append_left _ List.mem_cons_self⟩
    · obtain ⟨v, later⟩ := filled.required g inside needed
      exact ⟨v, List.mem_append_right _ later⟩

theorem read_fields_filled {fields : List (Field kind)} {data a : Record} (reads : readFields read data fields = .ok (a, [])) :
    Filled read fields a := by
  induction fields generalizing a with
  | nil =>
      cases reads
      exact ⟨nofun, nofun⟩
  | cons f rest ih =>
      rw [readFields] at reads
      cases here : readField read f data with
      | error fault =>
          rw [here] at reads
          cases fault with
          | escaping e => cases reads
          | invalid messages => cases later : readFields read data rest <;> rw [later] at reads <;> cases reads
      | ok found =>
          obtain ⟨absent, gives⟩ := read_field_gives here
          rw [here] at reads
          cases found with
          | none => exact filled_cons (ih reads) absent gives
          | some v =>
              cases later : readFields read data rest with
              | error e =>
                  rw [later] at reads
                  cases reads
              | ok parts =>
                  obtain ⟨good, bad⟩ := parts
                  rw [later] at reads
                  cases reads
                  exact filled_cons (ih later) absent gives

theorem read_filled {s : Shape kind} {unknown : Unknown} (dropping : unknown ≠ .keep) {v : Value} {a : Record}
    (reads : s.read read unknown v = .ok a) : Filled read s.fields a := by
  cases v with
  | record data =>
      rw [Shape.read] at reads
      cases fields : readFields read data s.fields with
      | error e =>
          rw [fields] at reads
          cases reads
      | ok parts =>
          obtain ⟨good, bad⟩ := parts
          rw [fields] at reads
          cases unknown with
          | keep => exact absurd rfl dropping
          | refuse | drop =>
              dsimp only at reads
              split at reads
              · rename_i clean
                have sound : bad = [] := (List.append_eq_nil_iff.mp (List.isEmpty_iff.mp clean)).1
                rw [sound] at fields
                cases reads
                exact read_fields_filled fields
              · cases reads
  | _ => cases reads

theorem gives_plain {f : Field kind} {v : Value} (gives : f.Gives read v) (default : f.default = none)
    (nonnull : f.nullable = false) : ∃ w, read f.kind w = .ok v := by
  rcases gives with given | ⟨nullable, _⟩ | reads
  · cases default.symm.trans given
  · cases nonnull.symm.trans nullable
  · exact reads

section Attributes

variable {fields : List (Field kind)} {a : Record}

-- An attribute that is not there is null to a constructor.
theorem filled_get (filled : Filled read fields a) (name : String) :
    a.get name = .null ∨ ∃ f ∈ fields, f.name = name ∧ f.Gives read (a.get name) := by
  rw [Record.get]
  cases found : a.get? name with
  | none => exact .inl rfl
  | some v => exact .inr (filled.given name v (Record.mem_of_get? found))

theorem filled_has (filled : Filled read fields a) {f : Field kind} (member : f ∈ fields) (required : f.required = true) :
    ∃ v, a.get? f.name = some v := by
  obtain ⟨v, inside⟩ := filled.required f member required
  exact Record.found_of_mem inside

theorem filled_required (filled : Filled read fields a) {f : Field kind} (member : f ∈ fields) (required : f.required = true) :
    ∃ g ∈ fields, g.name = f.name ∧ g.Gives read (a.get f.name) := by
  obtain ⟨v, found⟩ := filled_has filled member required
  rw [Record.get, found]
  exact filled.given f.name v (Record.mem_of_get? found)

-- Arguments by name: no others than the constructor knows, and all that it needs.
theorem filled_arguments (filled : Filled read fields a) {needed optional : List String}
    (known : ∀ f ∈ fields, f.name ∈ needed ∨ f.name ∈ optional)
    (required : ∀ name ∈ needed, ∃ f ∈ fields, f.name = name ∧ f.required = true) :
    Model.checkArguments needed optional a = .ok () := by
  have names : a.keys.all (fun k => needed.contains k || optional.contains k) = true := by
    rw [List.all_eq_true]
    intro name key
    obtain ⟨⟨_, v⟩, member, rfl⟩ := List.mem_map.mp key
    obtain ⟨f, inside, rfl, _⟩ := filled.given _ v member
    simpa using known f inside
  have present : needed.all (fun k => a.has k) = true := by
    rw [List.all_eq_true]
    intro name member
    obtain ⟨f, inside, rfl, needs⟩ := required name member
    obtain ⟨v, found⟩ := filled_has filled inside needs
    rw [Record.has, found]
    rfl
  rw [Model.checkArguments, names, present]
  rfl

end Attributes

end Filled

theorem read_each_ok {read : Value → Except Fault Value} {i : Nat} {items goods : List Value}
    (reads : readEach read i items = .ok (goods, [])) : ∀ g ∈ goods, ∃ item, read item = .ok g := by
  induction items generalizing i goods with
  | nil =>
      cases reads
      nofun
  | cons v rest ih =>
      rw [readEach] at reads
      cases here : read v with
      | error fault =>
          rw [here] at reads
          cases fault with
          | escaping e => cases reads
          | invalid messages => cases later : readEach read (i + 1) rest <;> rw [later] at reads <;> cases reads
      | ok w =>
          cases later : readEach read (i + 1) rest with
          | error e =>
              rw [here, later] at reads
              cases reads
          | ok parts =>
              obtain ⟨good, bad⟩ := parts
              rw [here, later] at reads
              cases reads
              exact List.forall_mem_cons.mpr ⟨⟨v, here⟩, ih later⟩

theorem read_list_ok {read : Value → Except Fault Value} {v w : Value} (reads : readList read v = .ok w) :
    ∃ goods, w = .list goods ∧ ∀ g ∈ goods, ∃ item, read item = .ok g := by
  cases v with
  | list items =>
      rw [readList] at reads
      split at reads
      · rename_i goods each
        cases reads
        exact ⟨goods, rfl, read_each_ok each⟩
      · cases reads
      · cases reads
  | _ => cases reads

/-! ### A shape that stands alone -/

theorem trips_nesting (s : Shape FieldKind) (v : Value) : s.nesting.Trips Nesting.Trips v ↔ s.Trips FieldKind.Trips v := by
  simp [Shape.Trips, Shape.nesting, Field.Trips, Nesting.Trips]

theorem filled_nesting {s : Shape FieldKind} {a : Record} (filled : Filled Nesting.read s.nesting.fields a) :
    Filled FieldKind.read s.fields a := by
  constructor
  · intro name v member
    obtain ⟨_, inside, same, gives⟩ := filled.given name v member
    obtain ⟨f, simple, rfl⟩ := List.mem_map.mp inside
    exact ⟨f, simple, same, gives⟩
  · intro f member required
    exact filled.required _ (List.mem_map.mpr ⟨f, member, rfl⟩) required

end Schema
end EbsiDid
