import EbsiDid.Proofs.Model.Identifier
import EbsiDid.Proofs.Model.Reading

set_option autoImplicit false

/-!
What reading a model can end in. A constructor takes whatever the schema read, so that a value makes a model or is
refused as a model is. Two things are not: purposes of a key that cannot be gone through, and a text that stands for a
value and is no JSON.
-/
namespace EbsiDid

theorem map_m_total {m : Type → Type} [Monad m] [LawfulMonad m] {α β : Type} {f : α → m β} {xs : List α}
    (each : ∀ x ∈ xs, ∃ y, f x = pure y) : ∃ ys, xs.mapM f = pure ys := by
  induction xs with
  | nil => exact ⟨[], rfl⟩
  | cons x rest ih =>
      obtain ⟨⟨y, here⟩, later⟩ := List.forall_mem_cons.mp each
      obtain ⟨ys, rest_made⟩ := ih later
      exact ⟨y :: ys, by rw [List.mapM_cons, here, rest_made]; simp⟩

/-! ### Purposes that were read -/

namespace Text

theorem of_point_short (point : Nat) : (ofPoint point).length ≤ 2 := by
  unfold ofPoint
  split
  · exact Nat.le_refl 2
  · split
    · exact Nat.le_refl 2
    · exact Nat.le_succ 1

theorem points_nil {chars : List Char} (none_left : points chars = []) : chars = [] := by
  match chars with
  | [] => rfl
  | [c] => cases none_left
  | c :: d :: rest =>
      rw [points] at none_left
      split at none_left <;> cases none_left

end Text

namespace Purpose

-- No purpose has so short a name as a code point takes.
theorem short_unknown {chars : List Char} (short : chars.length ≤ 2) : ofName? (String.ofList chars) = none := by
  rw [ofName?, List.find?_eq_none]
  intro p _ same
  have length := congrArg String.length (beq_iff_eq.mp same)
  rw [String.length_ofList] at length
  have long : 2 < p.name.length := by
    cases p <;> decide
  omega

end Purpose

namespace PurposeSet

theorem of_known {v : Value} {values : List Value} (listed : Purpose.namesIn v = .ok values)
    (known : ∀ item ∈ values, (Purpose.ofValue? item).isSome = true) : ∃ s, ofOptional v = .ok s := by
  obtain ⟨purposes, named⟩ := map_m_total (m := Option) fun item member => Option.isSome_iff_exists.mp (known item member)
  have all_named : Purpose.ofValues values = .ok purposes := by
    rw [Purpose.ofValues, named]
    rfl
  unfold ofOptional
  split
  · rw [ofValue, listed]
    exact ⟨ofList purposes, congrArg (Except.map ofList) all_named⟩
  · exact ⟨empty, rfl⟩

-- A text passes for a list of its code points, none of which is a purpose.
theorem text_read {s : String} {v : Value} (reads : Schema.readPurposeNames (.text s) = .ok v) : v = .text "" := by
  rw [Schema.readPurposeNames] at reads
  dsimp only [Value.items?] at reads
  split at reads
  · rename_i known
    cases reads
    have none_left : Text.points s.toList = [] := by
      rw [List.eq_nil_iff_forall_not_mem]
      intro point member
      have named := List.all_eq_true.mp known _ (List.mem_map.mpr ⟨point, member, rfl⟩)
      rw [Value.text?, Option.bind_some, Purpose.short_unknown (Text.of_point_short point)] at named
      cases named
    have characters := Text.points_nil none_left
    rw [← String.ofList_toList (s := s), characters]
  · cases reads

theorem of_read_names {v w : Value} (reads : Schema.readPurposeNames w = .ok v) : ∃ s, ofOptional v = .ok s := by
  cases w with
  | text s =>
      rw [text_read reads]
      exact ⟨empty, rfl⟩
  | list items | record fields =>
      rw [Schema.readPurposeNames] at reads
      dsimp only [Value.items?] at reads
      split at reads
      · rename_i known
        cases reads
        exact of_known rfl (List.all_eq_true.mp known)
      · cases reads
  | _ => cases reads

theorem name_read {v w : Value} (reads : Schema.notNull Schema.readPurposeName w = .ok v) :
    (Purpose.ofValue? v).isSome = true := by
  rw [Schema.notNull] at reads
  split at reads
  · cases reads
  · cases w with
    | text s =>
        simp only [Schema.readPurposeName, Schema.readText, bind, Except.bind] at reads
        split at reads
        · rename_i known
          cases reads
          exact known
        · cases reads
    | _ => cases reads

theorem of_read_list {v w : Value} (reads : Schema.readList (Schema.notNull Schema.readPurposeName) w = .ok v) :
    ∃ s, ofOptional v = .ok s := by
  obtain ⟨goods, rfl, each⟩ := Schema.read_list_ok reads
  refine of_known rfl fun good member => ?_
  obtain ⟨item, read⟩ := each good member
  exact name_read read

end PurposeSet

/-! ### Constructors take what was read -/

open Schema (FieldKind Filled Nesting Shape)

section KeyArguments

variable {fields : List (Schema.Field FieldKind)} {a : Record}

theorem key_type_read {v w : Value} (reads : FieldKind.read .keyType w = .ok v) : ∃ t : KeyType, v = .text t.name := by
  rw [FieldKind.read] at reads
  split at reads
  · rename_i t _
    cases reads
    exact ⟨t, rfl⟩
  · cases reads

theorem key_type_taken (t : KeyType) : KeyType.ofValue (.text t.name) = .ok t := by
  rw [KeyType.ofValue, KeyType.ofName?_name]

theorem filled_type (filled : Filled FieldKind.read fields a) (there : ∃ f ∈ fields, f.name = "type" ∧ f.required = true)
    (plain : ∀ f ∈ fields, f.name = "type" → f.kind = .keyType ∧ f.default.isNone = true ∧ f.nullable = false) :
    ∃ t, KeyType.ofValue (a.get "type") = .ok t := by
  obtain ⟨f, member, name, required⟩ := there
  obtain ⟨g, inside, same, gives⟩ := Schema.filled_required filled member required
  rw [name] at same gives
  obtain ⟨kind, default, nonnull⟩ := plain g inside same
  obtain ⟨w, reads⟩ := Schema.gives_plain gives (Option.isNone_iff_eq_none.mp default) nonnull
  rw [kind] at reads
  obtain ⟨t, text⟩ := key_type_read reads
  rw [text]
  exact ⟨t, key_type_taken t⟩

theorem filled_purposes (filled : Filled FieldKind.read fields a)
    (plain : ∀ f ∈ fields, f.name = "purposes" →
      (f.kind = .purposeNames ∨ f.kind = .purposeList) ∧ f.default.isNone = true ∧ f.nullable = false) :
    ∃ s, PurposeSet.ofOptional (a.get "purposes") = .ok s := by
  rcases Schema.filled_get filled "purposes" with absent | ⟨f, member, name, gives⟩
  · rw [absent]
    exact ⟨.empty, rfl⟩
  · obtain ⟨kind, default, nonnull⟩ := plain f member name
    obtain ⟨w, reads⟩ := Schema.gives_plain gives (Option.isNone_iff_eq_none.mp default) nonnull
    rcases kind with kind | kind
    · rw [kind] at reads
      exact PurposeSet.of_read_names reads
    · rw [kind] at reads
      exact PurposeSet.of_read_list reads

end KeyArguments

theorem KeyDescriptor.filled_made {a : Record} (filled : Filled FieldKind.read shape.fields a) : ∃ k, ofArguments a = .ok k := by
  have known : Model.checkArguments ["kid", "type", "public_key_hex"] ["kms", "purposes", "is_controller"] a = .ok () :=
    Schema.filled_arguments filled (by decide) (by decide)
  obtain ⟨t, type⟩ := filled_type filled (by decide) (by decide)
  obtain ⟨s, purposes⟩ := filled_purposes filled (by decide)
  rw [ofArguments, known, type, purposes]
  exact ⟨_, rfl⟩

theorem ImportableKey.filled_made {a : Record} (filled : Filled FieldKind.read shape.fields a) : ∃ k, ofArguments a = .ok k := by
  have known : Model.checkArguments ["kms", "type", "private_key_hex"] ["kid", "purposes", "is_controller"] a = .ok () :=
    Schema.filled_arguments filled (by decide) (by decide)
  obtain ⟨t, type⟩ := filled_type filled (by decide) (by decide)
  obtain ⟨s, purposes⟩ := filled_purposes filled (by decide)
  rw [ofArguments, known, type, purposes]
  exact ⟨_, rfl⟩

theorem Service.filled_made {a : Record} (filled : Filled FieldKind.read shape.fields a) : ∃ s, ofArguments a = .ok s := by
  have known : Model.checkArguments ["id", "type", "service_endpoint"] ["description"] a = .ok () :=
    Schema.filled_arguments filled (by decide) (by decide)
  rw [ofArguments, known]
  exact ⟨_, rfl⟩

theorem SignedTransaction.filled_made {a : Record} (filled : Filled FieldKind.read shape.fields a) :
    ∃ t, ofArguments a = .ok t := by
  have known : Model.checkArguments ["r", "s", "v", "signed_raw_transaction"] [] a = .ok () :=
    Schema.filled_arguments filled (by decide) (by decide)
  rw [ofArguments, known]
  exact ⟨_, rfl⟩

namespace Identifier

section Members

variable {α : Type} {make : Record → Except Error α} {inner : Shape FieldKind}

theorem members_read (drops : inner.unknown ≠ .keep)
    (made : ∀ a, Filled FieldKind.read inner.fields a → ∃ m, make a = .ok m) {v w : Value}
    (reads : Nesting.read (.records inner) w = .ok v) : ∃ ms, members make v = .ok ms := by
  obtain ⟨goods, rfl, each⟩ := Schema.read_list_ok reads
  unfold members
  split
  · apply map_m_total (m := Except Error)
    intro good member
    obtain ⟨item, read⟩ := each good member
    rw [Schema.notNull] at read
    split at read
    · cases read
    · cases shaped : inner.read FieldKind.read inner.unknown item with
      | error fault =>
          rw [shaped] at read
          cases read
      | ok a =>
          rw [shaped] at read
          cases read
          exact made a (Schema.read_filled drops shaped)
  · exact ⟨[], rfl⟩

theorem members_filled {fields : List (Schema.Field Nesting)} {a : Record} {name : String}
    (filled : Filled Nesting.read fields a) (drops : inner.unknown ≠ .keep)
    (made : ∀ a, Filled FieldKind.read inner.fields a → ∃ m, make a = .ok m)
    (plain : ∀ f ∈ fields, f.name = name → f.kind = .records inner ∧ f.default = none ∧ f.nullable = false) :
    ∃ ms, members make (a.get name) = .ok ms := by
  rcases Schema.filled_get filled name with absent | ⟨f, member, same, gives⟩
  · rw [absent]
    exact ⟨[], rfl⟩
  · obtain ⟨kind, default, nonnull⟩ := plain f member same
    obtain ⟨w, reads⟩ := Schema.gives_plain gives default nonnull
    rw [kind] at reads
    exact members_read drops made reads

end Members

theorem filled_made {a : Record} (filled : Filled Nesting.read shape.fields a) : ∃ i, ofArguments a = .ok i := by
  have known : Model.checkArguments ["did", "controller_key_id"] ["keys", "services", "alias", "provider"] a = .ok () :=
    Schema.filled_arguments filled (by decide) (by decide)
  have keys : ∃ ks, members KeyDescriptor.ofArguments (a.get "keys") = .ok ks :=
    members_filled filled (by decide) (fun _ => KeyDescriptor.filled_made)
      (by simp [shape, Schema.Field.needed, Schema.Field.optional, Schema.Field.orNull])
  have services : ∃ ss, members Service.ofArguments (a.get "services") = .ok ss :=
    members_filled filled (by decide) (fun _ => Service.filled_made)
      (by simp [shape, Schema.Field.needed, Schema.Field.optional, Schema.Field.orNull])
  obtain ⟨ks, keys_made⟩ := keys
  obtain ⟨ss, services_made⟩ := services
  rw [ofArguments, keys_made, services_made, known]
  exact ⟨_, rfl⟩

end Identifier

/-! ### What a reading ends in -/

-- A model, or the error of a model.
def Confined {α : Type} (r : Reply α) : Prop := (∃ a, r.result = .ok a) ∨ ∃ e, r.result = .error e ∧ e.kind = .model

namespace Model

-- What gets past the errors of a model: a value that trips the schema, and a text that is no JSON or holds such a value.
inductive Escapes (trips : Value → Prop) : Value → Error → Prop
  | tripped {v : Value} (trip : trips v) : Escapes trips v .wrongType
  | unread {text : String} {e : Error} (failed : parse text = .error e) : Escapes trips (.text text) e
  | trippedInside {text : String} {v : Value} (read : parse text = .ok v) (trip : trips v) : Escapes trips (.text text) .wrongType

-- A text that is no JSON at all does not. One within the text does.
inductive TextEscapes (trips : Value → Prop) : String → Error → Prop
  | inside {text : String} {v : Value} {e : Error} (read : parse text = .ok v) (escapes : Escapes trips v e) :
      TextEscapes trips text e

-- A value and a text are confined, unless something escapes from them, which is then what comes of them.
structure Confines {α : Type} (m : Model α) (trips : Value → Prop) (v : Value) (text : String) : Prop where
  confined : Confined (m.deserialize none v) ↔ ¬ ∃ e, Escapes trips v e
  escaped : ∀ e, Escapes trips v e → (m.deserialize none v).result = .error e
  textConfined : Confined (m.fromJson text) ↔ ¬ ∃ e, TextEscapes trips text e
  textEscaped : ∀ e, TextEscapes trips text e → (m.fromJson text).result = .error e

theorem unconfined {α : Type} {r : Reply α} {e : Error} (escaped : r.result = .error e) (foreign : e.kind ≠ .model) :
    ¬ Confined r := by
  rintro (⟨a, made⟩ | ⟨cause, failed, kind⟩)
  · cases escaped.symm.trans made
  · cases escaped.symm.trans failed
    exact foreign kind

theorem parse_error_kind {text : String} {e : Error} (failed : parse text = .error e) : e.kind ≠ .model := by
  unfold parse at failed
  split at failed
  · cases failed
  · rename_i cause _
    cases failed
    cases cause <;> nofun

section Reads

variable {α : Type} {m : Model α} {s : Shape Nesting} {trips : Value → Prop}

theorem escapes_kind {v : Value} {e : Error} (escapes : Escapes trips v e) : e.kind ≠ .model := by
  cases escapes with
  | tripped => nofun
  | unread failed => exact parse_error_kind failed
  | trippedInside => nofun

-- What the schema of a model does: which values trip it, and that the constructor takes what it reads.
structure Serves (m : Model α) (s : Shape Nesting) (trips : Value → Prop) : Prop where
  schema : m.schema = .ok s
  drops : s.unknown ≠ .keep
  trips : ∀ v, s.Trips Nesting.Trips v ↔ trips v
  made : ∀ a, Filled Nesting.read s.fields a → ∃ x, m.ofArguments a = .ok x

theorem load_tripped (serves : Serves m s trips) {v : Value} (trip : trips v) :
    (m.load none v).result = .error .wrongType := by
  have escaped := (Schema.escapes_shape Schema.escapes_nesting s s.unknown v .wrongType).mpr
    ⟨rfl, (serves.trips v).mpr trip⟩
  simp only [load, serves.schema, Option.getD_none, escaped]
  rfl

theorem load_confined (serves : Serves m s trips) {v : Value} (kept : ¬ trips v) : Confined (m.load none v) := by
  simp only [load, serves.schema, Option.getD_none]
  cases reads : s.read Nesting.read s.unknown v with
  | ok a =>
      obtain ⟨x, made⟩ := serves.made a (Schema.read_filled serves.drops reads)
      exact .inl ⟨x, made⟩
  | error fault =>
      cases fault with
      | invalid detail => exact .inr ⟨_, rfl, rfl⟩
      | escaping e =>
          obtain ⟨_, trip⟩ := (Schema.escapes_shape Schema.escapes_nesting s s.unknown v e).mp reads
          exact absurd ((serves.trips v).mp trip) kept

theorem trips_record (serves : Serves m s trips) {v : Value} (trip : trips v) : ∃ data, v = .record data := by
  obtain ⟨data, record, _⟩ := (serves.trips v).mpr trip
  exact ⟨data, record⟩

theorem deserialize_escaped (serves : Serves m s trips) {v : Value} {e : Error} (escapes : Escapes trips v e) :
    (m.deserialize none v).result = .error e := by
  cases escapes with
  | tripped trip =>
      obtain ⟨data, rfl⟩ := trips_record serves trip
      exact load_tripped serves trip
  | unread failed =>
      rw [deserialize, failed]
      rfl
  | trippedInside read trip =>
      rw [deserialize, read]
      exact load_tripped serves trip

theorem deserialize_confined (serves : Serves m s trips) {v : Value} (kept : ¬ ∃ e, Escapes trips v e) :
    Confined (m.deserialize none v) := by
  cases v with
  | text text =>
      cases read : parse text with
      | error e => exact absurd ⟨e, .unread read⟩ kept
      | ok w =>
          rw [deserialize, read]
          exact load_confined serves fun trip => kept ⟨_, .trippedInside read trip⟩
  | _ => exact load_confined serves fun trip => kept ⟨_, .tripped trip⟩

theorem text_escapes_kind {text : String} {e : Error} (escapes : TextEscapes trips text e) : e.kind ≠ .model := by
  cases escapes with
  | inside _ escapes => exact escapes_kind escapes

theorem from_json_escaped (serves : Serves m s trips) {text : String} {e : Error} (escapes : TextEscapes trips text e) :
    (m.fromJson text).result = .error e := by
  cases escapes with
  | inside read escapes =>
      rw [fromJson, read]
      exact deserialize_escaped serves escapes

theorem from_json_confined (serves : Serves m s trips) {text : String} (kept : ¬ ∃ e, TextEscapes trips text e) :
    Confined (m.fromJson text) := by
  cases read : parse text with
  | ok v =>
      rw [fromJson, read]
      apply deserialize_confined serves
      rintro ⟨e, escapes⟩
      exact kept ⟨e, .inside read escapes⟩
  | error e =>
      rw [fromJson, read]
      exact .inr ⟨_, rfl, rfl⟩

theorem confines (serves : Serves m s trips) (v : Value) (text : String) : m.Confines trips v text := by
  refine ⟨⟨?_, deserialize_confined serves⟩, fun e => deserialize_escaped serves, ⟨?_, from_json_confined serves⟩,
    fun e => from_json_escaped serves⟩
  · rintro confined ⟨e, escapes⟩
    exact unconfined (deserialize_escaped serves escapes) (escapes_kind escapes) confined
  · rintro confined ⟨e, escapes⟩
    exact unconfined (from_json_escaped serves escapes) (text_escapes_kind escapes) confined

end Reads

theorem serves_simple {α : Type} {m : Model α} {s : Shape FieldKind} {trips : Value → Prop} (schema : m.schema = .ok s.nesting)
    (drops : s.unknown ≠ .keep) (same : ∀ v, s.Trips FieldKind.Trips v ↔ trips v)
    (made : ∀ a, Filled FieldKind.read s.fields a → ∃ x, m.ofArguments a = .ok x) : Serves m s.nesting trips :=
  ⟨schema, drops, fun v => (Schema.trips_nesting s v).trans (same v), fun a filled => made a (Schema.filled_nesting filled)⟩

end Model

/-! ### The models -/

-- The purposes of a key are a number or a truth value.
def UncountedPurposes (v : Value) : Prop :=
  ∃ data purposes, v = .record data ∧ Record.get? "purposes" data = some purposes ∧ purposes.isNull = false ∧ purposes.items? = none

-- The keys of an identifier have such a one among them.
def UncountedKey (v : Value) : Prop :=
  ∃ data keys, v = .record data ∧ Record.get? "keys" data = some (.list keys) ∧ ∃ key ∈ keys, UncountedPurposes key

theorem KeyDescriptor.trips_iff (v : Value) : shape.Trips FieldKind.Trips v ↔ UncountedPurposes v := by
  simp [Shape.Trips, Schema.Field.Trips, FieldKind.Trips, shape, Schema.Field.needed, Schema.Field.optional, Schema.Field.orNull,
    Schema.Field.withDefault, UncountedPurposes]

theorem trips_without {s : Shape FieldKind} (without : ∀ f ∈ s.fields, f.kind ≠ .purposeNames) (v : Value) :
    s.Trips FieldKind.Trips v ↔ False := by
  refine ⟨?_, False.elim⟩
  rintro ⟨data, _, f, member, w, _, _, names, _⟩
  exact without f member names

theorem Identifier.trips_iff (v : Value) : shape.Trips Nesting.Trips v ↔ UncountedKey v := by
  have texts (w : Value) : ¬ Nesting.Trips (.simple .text) w := by simp [Nesting.Trips, FieldKind.Trips]
  have service (w : Value) : Service.shape.Trips FieldKind.Trips w ↔ False := trips_without (by decide) w
  have services (w : Value) : ¬ Nesting.Trips (.records Service.shape) w := by simp [Nesting.Trips, service]
  have keys (w : Value) : Nesting.Trips (.records KeyDescriptor.shape) w ↔
      ∃ keys, w = .list keys ∧ ∃ key ∈ keys, UncountedPurposes key := by
    have record (key : Value) : key.isNull = false ∧ UncountedPurposes key ↔ UncountedPurposes key := by
      refine ⟨And.right, fun uncounted => ⟨?_, uncounted⟩⟩
      obtain ⟨data, _, rfl, _⟩ := uncounted
      rfl
    simp only [Nesting.Trips, KeyDescriptor.trips_iff, record]
  rw [Shape.Trips, UncountedKey]
  simp [Schema.Field.Trips, shape, Schema.Field.needed, Schema.Field.optional, Schema.Field.orNull, texts, services, keys,
    Value.isNull]

-- All models are read alike. Only keys have a field from which an error escapes, and identifiers have keys.
theorem models_confine (v : Value) (text : String) :
    KeyDescriptor.model.Confines UncountedPurposes v text ∧ ImportableKey.model.Confines (fun _ => False) v text ∧
      Service.model.Confines (fun _ => False) v text ∧ SignedTransaction.model.Confines (fun _ => False) v text ∧
      Identifier.model.Confines UncountedKey v text := by
  have key : Model.Serves KeyDescriptor.model KeyDescriptor.shape.nesting UncountedPurposes :=
    Model.serves_simple rfl (by decide) KeyDescriptor.trips_iff fun _ => KeyDescriptor.filled_made
  have material : Model.Serves ImportableKey.model ImportableKey.shape.nesting fun _ => False :=
    Model.serves_simple rfl (by decide) (trips_without (by decide)) fun _ => ImportableKey.filled_made
  have service : Model.Serves Service.model Service.shape.nesting fun _ => False :=
    Model.serves_simple rfl (by decide) (trips_without (by decide)) fun _ => Service.filled_made
  have signed : Model.Serves SignedTransaction.model SignedTransaction.shape.nesting fun _ => False :=
    Model.serves_simple rfl (by decide) (trips_without (by decide)) fun _ => SignedTransaction.filled_made
  have identifier : Model.Serves Identifier.model Identifier.shape UncountedKey :=
    ⟨rfl, by decide, Identifier.trips_iff, fun _ => Identifier.filled_made⟩
  exact ⟨Model.confines key v text, Model.confines material v text, Model.confines service v text,
    Model.confines signed v text, Model.confines identifier v text⟩

-- Five purposes, and a text that is the JSON of a text that is no JSON.
theorem readings_unconfined :
    let numbered : Value := .record [("kid", .text "k"), ("type", .text "Secp256k1"), ("publicKeyHex", .text "02"),
      ("purposes", .int 5)]
    let key := KeyDescriptor.model.deserialize none numbered
    let service := Service.model.fromJson "\"\x7b\""
    (key.result = .error .wrongType ∧ ¬ Confined key) ∧
      service.result = .error (.foreign .malformedJson) ∧ ¬ Confined service := by
  intro numbered key service
  have tripped : key.result = .error .wrongType := rfl
  have unread : service.result = .error (.foreign .malformedJson) := rfl
  exact ⟨⟨tripped, Model.unconfined tripped nofun⟩, unread, Model.unconfined unread nofun⟩

end EbsiDid
