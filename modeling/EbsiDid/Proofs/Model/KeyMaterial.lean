import EbsiDid.Proofs.Model.RoundTrip

set_option autoImplicit false

/-!
Key material as it is written and read. Its purposes are written as members of the enumeration that they belong to,
and read as the names that these members have. Without purposes nothing is lost but the private key.
-/
namespace EbsiDid

namespace PurposeSet

-- The purposes as they are written of key material.
def labels (s : PurposeSet) : Value := .list (s.toList.map fun p => .text ("KeyPurpose." ++ p.label))

theorem label_unknown (p : Purpose) : Purpose.ofName? ("KeyPurpose." ++ p.label) = none := by
  cases p <;> decide +kernel

theorem labels_dumped (s : PurposeSet) : Schema.FieldKind.dump .purposeList s.values = s.labels := by
  have each : ∀ p : Purpose, Schema.dumpPurposeLabel (.text p.name) = .text ("KeyPurpose." ++ p.label) := by
    intro p
    have known : (Value.text p.name).text?.bind Purpose.ofName? = some p := Purpose.ofName?_name p
    rw [Schema.dumpPurposeLabel, known]
  rw [values_eq, labels, Schema.FieldKind.dump, List.map_map]
  exact congrArg Value.list (List.map_congr_left fun p _ => each p)

-- No purpose is written by its name.
theorem labels_named_iff (s : PurposeSet) : s.labels = s.values ↔ s.isEmpty = true := by
  rw [values_eq, labels, isEmpty]
  cases s.toList with
  | nil => exact iff_of_true rfl rfl
  | cons p rest =>
      refine iff_of_false ?_ Bool.false_ne_true
      intro same
      have first : "KeyPurpose." ++ p.label = p.name := by simpa using (List.cons.inj (Value.list.inj same)).1
      have known := label_unknown p
      rw [first, Purpose.ofName?_name] at known
      cases known

def notOneOf : Value := .list [.text ("Must be one of: " ++ Schema.purposeChoices ++ ".")]

-- A message for each of them, by its position.
def objections (s : PurposeSet) : Record :=
  (List.range' 0 s.toList.length).map fun j => (Number.text j, notOneOf)

theorem labels_refused (s : PurposeSet) (nonempty : s.isEmpty = false) :
    Schema.FieldKind.read .purposeList s.labels = .error (.invalid (.record s.objections)) := by
  have each : ∀ v ∈ s.toList.map (fun p => Value.text ("KeyPurpose." ++ p.label)),
      Schema.notNull Schema.readPurposeName v = .error (.invalid notOneOf) := by
    intro v member
    obtain ⟨p, _, rfl⟩ := List.mem_map.mp member
    have unknown : (Value.text ("KeyPurpose." ++ p.label)).text?.bind Purpose.ofName? = none := label_unknown p
    simp only [Schema.notNull, Value.isNull, Schema.readPurposeName, Schema.readText, bind, Except.bind, unknown]
    rfl
  have read := Schema.read_each_refused each 0
  rw [List.length_map] at read
  rw [labels, Schema.FieldKind.read, Schema.readList, read]
  cases members : s.toList with
  | nil =>
      rw [isEmpty, members] at nonempty
      cases nonempty
  | cons p rest =>
      rw [objections, members]
      rfl

theorem values_listed (s : PurposeSet) : Schema.FieldKind.read .purposeList s.values = .ok s.values := by
  have each : List.Forall₂ (fun v w => Schema.notNull Schema.readPurposeName v = .ok w)
      (s.toList.map fun p => Value.text p.name) (s.toList.map fun p => Value.text p.name) := by
    rw [List.forall₂_same]
    intro v member
    obtain ⟨p, _, rfl⟩ := List.mem_map.mp member
    have known : (Value.text p.name).text?.bind Purpose.ofName? = some p := Purpose.ofName?_name p
    simp only [Schema.notNull, Value.isNull, Schema.readPurposeName, Schema.readText, bind, Except.bind, known]
    rfl
  rw [values_eq, Schema.FieldKind.read, Schema.readList, Schema.read_each each]

end PurposeSet

-- Where members that no field names are dropped, the fields alone decide.
theorem Model.deserialize_read {α : Type} {model : Model α} {s : Schema.Shape Schema.Nesting} {data good bad : Record}
    (schema : model.schema = .ok s) (drops : s.unknown = .drop)
    (reads : Schema.Reads Schema.Nesting.read data s.fields good bad) :
    model.deserialize none (.record data) =
      if bad.isEmpty then .silent (model.ofArguments good)
      else ⟨.error (.modelInvalid model.name .schemaViolation (some (.record bad))), [model.errorLine "validation"]⟩ := by
  have shaped := Schema.shape_read reads
  simp only [deserialize, load, schema, Option.getD_none, drops, shaped]
  cases bad <;> rfl

namespace ImportableKey

open Schema

-- Arguments of the declared types. Which types and purposes there are is for the constructor to check.
structure Declared (a : Record) : Prop where
  kms : ∃ s, a.get "kms" = .text s
  privateKeyHex : ∃ s, a.get "private_key_hex" = .text s
  kid : a.get "kid" = .null ∨ ∃ s, a.get "kid" = .text s
  isController : ∀ v, a.get? "is_controller" = some v → v.IsFlag

def Built (k : ImportableKey) : Prop := ∃ a, Declared a ∧ ofArguments a = .ok k

structure Typed (k : ImportableKey) : Prop where
  kms : ∃ s, k.kms = .text s
  privateKeyHex : ∃ s, k.privateKeyHex = .text s
  kid : k.kid = .null ∨ ∃ s, k.kid = .text s
  isController : k.isController.IsFlag

theorem built_typed {k : ImportableKey} (built : Built k) : Typed k := by
  obtain ⟨a, declared, made⟩ := built
  obtain ⟨_, _, made⟩ := except_bind_ok made
  obtain ⟨type, _, made⟩ := except_bind_ok made
  obtain ⟨purposes, _, made⟩ := except_bind_ok made
  cases made
  refine ⟨declared.kms, declared.privateKeyHex, declared.kid, ?_⟩
  cases given : a.get? "is_controller" with
  | none => exact ⟨false, rfl⟩
  | some v => exact declared.isController v given

theorem made_of {k : ImportableKey} {a : Record}
    (known : Model.checkArguments ["kms", "type", "private_key_hex"] ["kid", "purposes", "is_controller"] a = .ok ())
    (kms : a.get "kms" = k.kms) (type : a.get "type" = .text k.type.name) (hex : a.get "private_key_hex" = k.privateKeyHex)
    (kid : a.get "kid" = k.kid) (purposes : a.get "purposes" = k.purposes.values)
    (isController : (a.get? "is_controller").getD (.bool false) = k.isController) : ofArguments a = .ok k := by
  have type_made : KeyType.ofValue (.text k.type.name) = .ok k.type := by
    rw [KeyType.ofValue, KeyType.ofName?_name]
  rw [ofArguments, known, kms, type, hex, kid, purposes, isController, type_made, PurposeSet.of_values]
  rfl

-- A record of all that is written of key material, with something for its purposes.
structure Members (k : ImportableKey) (purposes : Value) (data : Record) : Prop where
  kms : data.get? "kms" = some k.kms
  type : data.get? "type" = some (.text k.type.name)
  kid : data.get? "kid" = if k.kid.isNull then none else some k.kid
  purposes : data.get? "purposes" = some purposes
  isController : data.get? "isController" = some k.isController

theorem members_written {k : ImportableKey} (typed : Typed k) :
    ∃ data, model.serialize k = .silent (.ok data) ∧ Members k k.purposes.labels data := by
  obtain ⟨kms, type, privateKeyHex, kid, purposes, isController⟩ := k
  obtain ⟨⟨kms, rfl⟩, ⟨privateKeyHex, rfl⟩, kid_text, ⟨b, rfl⟩⟩ := typed
  refine ⟨_, rfl, ?_⟩
  rw [← PurposeSet.labels_dumped]
  rcases kid_text with rfl | ⟨kid, rfl⟩
  · exact ⟨rfl, rfl, rfl, rfl, rfl⟩
  · exact ⟨rfl, rfl, rfl, rfl, rfl⟩

theorem members_put_key {k : ImportableKey} {purposes : Value} {data : Record} (members : Members k purposes data)
    (privateKey : Value) : Members k purposes (data.put "privateKeyHex" privateKey) := by
  constructor
  · rw [Record.get?_put_other _ _ _ _ (by decide), members.kms]
  · rw [Record.get?_put_other _ _ _ _ (by decide), members.type]
  · rw [Record.get?_put_other _ _ _ _ (by decide), members.kid]
  · rw [Record.get?_put_other _ _ _ _ (by decide), members.purposes]
  · rw [Record.get?_put_other _ _ _ _ (by decide), members.isController]

theorem members_put_purposes {k : ImportableKey} {purposes : Value} {data : Record} (members : Members k purposes data)
    (others : Value) : Members k others (data.put "purposes" others) := by
  constructor
  · rw [Record.get?_put_other _ _ _ _ (by decide), members.kms]
  · rw [Record.get?_put_other _ _ _ _ (by decide), members.type]
  · rw [Record.get?_put_other _ _ _ _ (by decide), members.kid]
  · rw [Record.get?_put_same]
  · rw [Record.get?_put_other _ _ _ _ (by decide), members.isController]

section Reading

variable {k : ImportableKey} {purposes : Value} {data : Record}

def front (k : ImportableKey) : Record :=
  [("kms", k.kms), ("type", .text k.type.name), ("private_key_hex", k.privateKeyHex)] ++
    if k.kid.isNull then [] else [("kid", k.kid)]

-- The fields before the purposes are read back, whatever becomes of the others.
theorem front_read (typed : Typed k) (members : Members k purposes data)
    (held : data.get? "privateKeyHex" = some k.privateKeyHex) {rest : List (Schema.Field Nesting)} {good bad : Record}
    (later : Reads Nesting.read data rest good bad) :
    Reads Nesting.read data (.needed "kms" "kms" (.simple .text) :: .needed "type" "type" (.simple .keyType) ::
      .secret "private_key_hex" "privateKeyHex" (.simple .text) :: .orNull "kid" "kid" (.simple .text) :: rest)
      (front k ++ good) bad := by
  obtain ⟨kms, type, privateKeyHex, kid, purposes, isController⟩ := k
  obtain ⟨⟨kms, rfl⟩, ⟨privateKeyHex, rfl⟩, kid_text, _⟩ := typed
  have type_read : Nesting.read (.simple .keyType) (.text type.name) = .ok (.text type.name) := by
    cases type <;> rfl
  have kid_read : Reads Nesting.read data (.orNull "kid" "kid" (.simple .text) :: rest)
      ((if kid.isNull then [] else [("kid", kid)]) ++ good) bad := by
    rcases kid_text with rfl | ⟨kid, rfl⟩
    · exact .absent (read_field_absent members.kid rfl) later
    · exact .given (read_field_given members.kid rfl rfl) later
  exact .given (read_field_given members.kms rfl rfl) (.given (read_field_given members.type rfl type_read)
    (.given (read_field_given held rfl rfl) kid_read))

def ending : List (Schema.Field Nesting) :=
  [.optional "purposes" "purposes" (.simple .purposeList),
   .withDefault "is_controller" "isController" (.bool false) (.simple .flag)]

theorem flag_read (typed : Typed k) (members : Members k purposes data) :
    Reads Nesting.read data [.withDefault "is_controller" "isController" (.bool false) (.simple .flag)]
      [("is_controller", k.isController)] [] := by
  obtain ⟨b, flag⟩ := typed.isController
  have found := members.isController
  rw [flag] at found ⊢
  have reads : Nesting.read (.simple .flag) (.bool b) = .ok (.bool b) := by
    cases b <;> rfl
  exact .given (read_field_given found rfl reads) .nil

theorem named_read (typed : Typed k) (members : Members k k.purposes.values data) :
    Reads Nesting.read data ending [("purposes", k.purposes.values), ("is_controller", k.isController)] [] := by
  have listed : Nesting.read (.simple .purposeList) k.purposes.values = .ok k.purposes.values := k.purposes.values_listed
  exact .given (read_field_given members.purposes rfl listed) (flag_read typed members)

theorem labelled_read (typed : Typed k) (members : Members k k.purposes.labels data)
    (nonempty : k.purposes.isEmpty = false) :
    Reads Nesting.read data ending [("is_controller", k.isController)] [("purposes", .record k.purposes.objections)] := by
  have refused : Nesting.read (.simple .purposeList) k.purposes.labels = .error (.invalid (.record k.purposes.objections)) :=
    k.purposes.labels_refused nonempty
  exact .refused (read_field_refused members.purposes rfl refused) (flag_read typed members)

theorem named_made (typed : Typed k) :
    ofArguments (front k ++ [("purposes", k.purposes.values), ("is_controller", k.isController)]) = .ok k := by
  obtain ⟨kms, type, privateKeyHex, kid, purposes, isController⟩ := k
  obtain ⟨_, _, kid_text, _⟩ := typed
  rcases kid_text with rfl | ⟨kid, rfl⟩ <;> exact made_of rfl rfl rfl rfl rfl rfl rfl

theorem named_loaded (typed : Typed k) (members : Members k k.purposes.values data)
    (held : data.get? "privateKeyHex" = some k.privateKeyHex) : model.deserialize none (.record data) = .silent (.ok k) := by
  rw [Model.deserialize_read rfl rfl (front_read typed members held (named_read typed members))]
  exact congrArg Reply.silent (named_made typed)

theorem labelled_refused (typed : Typed k) (members : Members k k.purposes.labels data)
    (held : data.get? "privateKeyHex" = some k.privateKeyHex) (nonempty : k.purposes.isEmpty = false) :
    model.deserialize none (.record data) =
      ⟨.error (.modelInvalid "ImportableKey" .schemaViolation
        (some (.record [("purposes", .record k.purposes.objections)]))), [model.errorLine "validation"]⟩ := by
  rw [Model.deserialize_read rfl rfl (front_read typed members held (labelled_read typed members nonempty))]
  rfl

end Reading

-- What is written of key material names no purpose. With the private key put back it is read as the key if there
-- are no purposes, and refused if there are any; with the purposes by name it is read as the key in any case.
theorem key_material_labelled {k : ImportableKey} (built : Built k) :
    ∃ data, model.serialize k = .silent (.ok data) ∧
      data.get? "purposes" = some k.purposes.labels ∧
      (k.purposes.labels = k.purposes.values ↔ k.purposes.isEmpty = true) ∧
      let back := data.put "privateKeyHex" k.privateKeyHex
      model.deserialize none (.record back) =
        (if k.purposes.isEmpty then .silent (.ok k)
         else ⟨.error (.modelInvalid "ImportableKey" .schemaViolation
            (some (.record [("purposes", .record k.purposes.objections)]))), [model.errorLine "validation"]⟩) ∧
      model.deserialize none (.record (back.put "purposes" k.purposes.values)) = .silent (.ok k) := by
  have typed := built_typed built
  obtain ⟨data, written, members⟩ := members_written typed
  refine ⟨data, written, members.purposes, k.purposes.labels_named_iff, ?_⟩
  intro back
  have held : back.get? "privateKeyHex" = some k.privateKeyHex := Record.get?_put_same _ _ _
  have whole : Members k k.purposes.labels back := members_put_key members k.privateKeyHex
  constructor
  · cases empty : k.purposes.isEmpty with
    | true =>
        rw [k.purposes.labels_named_iff.mpr empty] at whole
        exact named_loaded typed whole held
    | false => exact labelled_refused typed whole held empty
  · refine named_loaded typed (members_put_purposes whole _) ?_
    rw [Record.get?_put_other _ _ _ _ (by decide), held]

def authenticating : ImportableKey :=
  ⟨.text "local", .secp256r1, .text "01", .text "k1", .ofList [.authentication], .bool false⟩

theorem authenticating_built : Built authenticating :=
  ⟨[("kms", .text "local"), ("type", .text "Secp256r1"), ("private_key_hex", .text "01"), ("kid", .text "k1"),
    ("purposes", .list [.text "authentication"])], ⟨⟨_, rfl⟩, ⟨_, rfl⟩, .inr ⟨_, rfl⟩, nofun⟩, rfl⟩

theorem key_material_labelled_authenticating :
    Built authenticating ∧ ∃ data, model.serialize authenticating = .silent (.ok data) ∧
      data.get? "purposes" = some (.list [.text "KeyPurpose.AUTHENTICATION"]) := by
  obtain ⟨data, written, labelled, _⟩ := key_material_labelled authenticating_built
  exact ⟨authenticating_built, data, written, labelled⟩

-- The purpose is not written by its name, and the schema that wrote it does not take it back.
theorem labelled_key_unread :
    let data : Record := [("kms", .text "local"), ("type", .text "Secp256r1"), ("kid", .text "k1"),
      ("purposes", .list [.text "KeyPurpose.AUTHENTICATION"]), ("isController", .bool false)]
    Built authenticating ∧ authenticating.purposes.values = .list [.text "authentication"] ∧
      model.serialize authenticating = .silent (.ok data) ∧
      ¬ ∃ k, (model.deserialize none
        (.record (data.put "privateKeyHex" authenticating.privateKeyHex))).result = .ok k := by
  intro data
  have members : Members authenticating authenticating.purposes.labels
      (data.put "privateKeyHex" authenticating.privateKeyHex) := ⟨rfl, rfl, rfl, rfl, rfl⟩
  have refused := labelled_refused (built_typed authenticating_built) members rfl rfl
  refine ⟨authenticating_built, rfl, rfl, ?_⟩
  rintro ⟨k, loaded⟩
  rw [refused] at loaded
  cases loaded

end ImportableKey

end EbsiDid
