import EbsiDid.Model.Identifier
import EbsiDid.Proofs.Json.RoundTrip
import EbsiDid.Proofs.Key.Assignment
import EbsiDid.Proofs.Model.Schema

set_option autoImplicit false

/-!
Models are read back as they were written: keys, services and signed transactions that are made of declared
arguments. The written form names members otherwise than the constructor does and leaves out what is null.
-/
namespace EbsiDid

theorem except_bind_ok {α β : Type} {x : Except Error α} {f : α → Except Error β} {b : β} (ends : (x >>= f) = .ok b) :
    ∃ a, x = .ok a ∧ f a = .ok b := by
  cases x with
  | error e => cases ends
  | ok a => exact ⟨a, rfl, ends⟩

theorem Reply.silent_bind {α β : Type} (a : α) (f : α → Reply β) : (Reply.silent (.ok a)).bind f = f a := rfl

namespace Model

variable {α : Type}

-- What is written of a model is read as that model, and so is its JSON.
structure RoundTrips (model : Model α) (m : α) (data : Record) : Prop where
  written : model.serialize m = .silent (.ok data)
  loaded : model.deserialize none (.record data) = .silent (.ok m)
  same : (model.deserialize none (.record data)).bind (model.same m) = .silent (.ok true)
  again : (model.deserialize none (.record data)).bind model.serialize = .silent (.ok data)
  valid : model.validate m = .silent (.ok ())
  parsed : (Value.record data).Legible → (model.toJson m).bind model.fromJson = .silent (.ok m)

theorem round_trips {model : Model α} {s : Schema.Shape Schema.Nesting} (schema : model.schema = .ok s)
    (distinct : s.Distinct) {m : α} {good : Record}
    (restored : Schema.Restored Schema.Nesting.read Schema.Nesting.dump (model.attributes m) s.fields good)
    (made : model.ofArguments good = .ok m) :
    RoundTrips model m (s.dump Schema.Nesting.dump (model.attributes m)) := by
  have proper := Schema.dumped_proper distinct restored
  have reads := Schema.read_dumped distinct restored
  generalize same : s.dump Schema.Nesting.dump (model.attributes m) = data at proper reads ⊢
  have written : model.serialize m = .silent (.ok data) := by
    simp only [serialize, schema, same]
  have loaded : model.deserialize none (.record data) = .silent (.ok m) := by
    simp only [deserialize, load, schema, reads, made]
  refine ⟨written, loaded, ?_, ?_, ?_, ?_⟩
  · rw [loaded, Reply.silent_bind, Model.same, written, Reply.silent_bind]
    simp only [Reply.map, Reply.silent, Except.map, Value.alike_refl (.record data) proper]
  · rw [loaded, Reply.silent_bind, written]
  · simp only [validate, schema, written, Reply.silent_bind, reads]
  · intro legible
    have back := Json.read_written Json.readable_spaced rfl proper legible
    have text : model.toJson m = .silent (.ok (Json.write Json.spaced (.record data))) := by
      rw [toJson, written]
      rfl
    rw [text, Reply.silent_bind, fromJson, parse, back]
    exact loaded

theorem round_trips_simple {model : Model α} {s : Schema.Shape Schema.FieldKind} (schema : model.schema = .ok s.nesting)
    (distinct : s.Distinct) {m : α} (restored : ∃ good,
      Schema.Restored Schema.FieldKind.read Schema.FieldKind.dump (model.attributes m) s.fields good ∧
        model.ofArguments good = .ok m) : ∃ data, RoundTrips model m data := by
  obtain ⟨good, back, made⟩ := restored
  exact ⟨_, round_trips schema (Schema.distinct_nesting distinct) (Schema.restored_nesting back) made⟩

end Model

/-! ### Declared arguments -/

namespace Value

def IsText (v : Value) : Prop := ∃ s, v = .text s ∧ Json.Kept s

def IsOptionalText (v : Value) : Prop := v = .null ∨ v.IsText

def IsFlag (v : Value) : Prop := ∃ b, v = .bool b

-- Any JSON value other than null.
def IsGiven (v : Value) : Prop := v.isNull = false ∧ v.Proper

end Value

namespace PurposeSet

theorem values_eq (s : PurposeSet) : s.values = .list (s.toList.map fun p => .text p.name) := by
  rw [values, names, List.map_map]
  rfl

theorem values_proper (s : PurposeSet) : s.values.Proper := by
  rw [values_eq, Value.Proper, Value.proper_items_iff]
  intro v member
  obtain ⟨p, _, rfl⟩ := List.mem_map.mp member
  cases p <;> rfl

theorem values_read (s : PurposeSet) : Schema.readPurposeNames s.values = .ok s.values := by
  have known : (s.toList.map fun p => Value.text p.name).all
      (fun item => (item.text?.bind Purpose.ofName?).isSome) = true := by
    rw [List.all_map, List.all_eq_true]
    intro p _
    exact congrArg Option.isSome (Purpose.ofName?_name p)
  rw [values_eq, Schema.readPurposeNames]
  exact if_pos known

theorem of_values (s : PurposeSet) : ofOptional s.values = .ok s := by
  rw [ofOptional, values_eq]
  cases members : s.toList with
  | nil =>
      rw [← ofList_toList s, members]
      rfl
  | cons p rest =>
      have named : Purpose.ofValues ((p :: rest).map fun p => .text p.name) = .ok (p :: rest) := by
        rw [Purpose.ofValues, Purpose.names_known]
      have made : ofValue (.list ((p :: rest).map fun p => .text p.name)) = .ok (ofList (p :: rest)) := by
        exact congrArg (Except.map ofList) named
      rw [← members, ofList_toList, members] at made
      exact made

end PurposeSet

namespace KeyDescriptor

open Schema

-- Arguments of the declared types. Which types and purposes there are is for the constructor to check.
structure Declared (a : Record) : Prop where
  kid : (a.get "kid").IsText
  publicKeyHex : (a.get "public_key_hex").IsText
  kms : (a.get "kms").IsOptionalText
  isController : ∀ v, a.get? "is_controller" = some v → v.IsFlag

def Built (k : KeyDescriptor) : Prop := ∃ a, Declared a ∧ ofArguments a = .ok k

structure Typed (k : KeyDescriptor) : Prop where
  kid : k.kid.IsText
  publicKeyHex : k.publicKeyHex.IsText
  kms : k.kms.IsOptionalText
  isController : k.isController.IsFlag

theorem built_typed {k : KeyDescriptor} (built : Built k) : Typed k := by
  obtain ⟨a, declared, made⟩ := built
  obtain ⟨_, _, made⟩ := except_bind_ok made
  obtain ⟨type, _, made⟩ := except_bind_ok made
  obtain ⟨purposes, _, made⟩ := except_bind_ok made
  cases made
  refine ⟨declared.kid, declared.publicKeyHex, declared.kms, ?_⟩
  cases given : a.get? "is_controller" with
  | none => exact ⟨false, rfl⟩
  | some v => exact declared.isController v given

theorem made_of {k : KeyDescriptor} {a : Record}
    (known : Model.checkArguments ["kid", "type", "public_key_hex"] ["kms", "purposes", "is_controller"] a = .ok ())
    (kid : a.get "kid" = k.kid) (type : a.get "type" = .text k.type.name) (hex : a.get "public_key_hex" = k.publicKeyHex)
    (kms : a.get "kms" = k.kms) (purposes : a.get "purposes" = k.purposes.values)
    (isController : (a.get? "is_controller").getD (.bool false) = k.isController) : ofArguments a = .ok k := by
  have type_made : KeyType.ofValue (.text k.type.name) = .ok k.type := by
    rw [KeyType.ofValue, KeyType.ofName?_name]
  rw [ofArguments, known, kid, type, hex, kms, purposes, isController, type_made, PurposeSet.of_values]
  rfl

theorem restored {k : KeyDescriptor} (typed : Typed k) : ∃ good,
    Restored FieldKind.read FieldKind.dump k.attributes shape.fields good ∧ ofArguments good = .ok k := by
  obtain ⟨kid, type, publicKeyHex, kms, purposes, isController⟩ := k
  obtain ⟨⟨kid, rfl, kid_kept⟩, ⟨publicKeyHex, rfl, hex_kept⟩, kms_text, ⟨b, rfl⟩⟩ := typed
  have type_read : FieldKind.read .keyType (.text type.name) = .ok (.text type.name) := by
    cases type <;> rfl
  have type_kept : Json.Kept type.name := by
    cases type <;> rfl
  have flag_read : FieldKind.read .flag (.bool b) = .ok (.bool b) := by
    cases b <;> rfl
  have ending : Restored FieldKind.read FieldKind.dump (attributes ⟨.text kid, type, .text publicKeyHex, kms, purposes, .bool b⟩)
      [.optional "purposes" "purposes" .purposeNames, .withDefault "is_controller" "isController" (.bool false) .flag]
      [("purposes", purposes.values), ("is_controller", .bool b)] :=
    .found rfl purposes.values_proper purposes.values_read (.found rfl trivial flag_read .nil)
  rcases kms_text with rfl | ⟨kms, rfl, kms_kept⟩
  · exact ⟨_, .found rfl kid_kept rfl (.found rfl type_kept type_read (.found rfl hex_kept rfl (.missing rfl rfl rfl ending))),
      made_of rfl rfl rfl rfl rfl rfl rfl⟩
  · exact ⟨_, .found rfl kid_kept rfl (.found rfl type_kept type_read (.found rfl hex_kept rfl (.found rfl kms_kept rfl ending))),
      made_of rfl rfl rfl rfl rfl rfl rfl⟩

theorem distinct : shape.Distinct := ⟨by decide, by decide⟩

theorem round_trips {k : KeyDescriptor} (typed : Typed k) : ∃ data, Model.RoundTrips model k data :=
  Model.round_trips_simple rfl distinct (restored typed)

end KeyDescriptor

namespace Service

open Schema

structure Declared (a : Record) : Prop where
  id : (a.get "id").IsText
  type : (a.get "type").IsText
  serviceEndpoint : (a.get "service_endpoint").IsGiven
  description : (a.get "description").IsOptionalText

def Built (s : Service) : Prop := ∃ a, Declared a ∧ ofArguments a = .ok s

structure Typed (s : Service) : Prop where
  id : s.id.IsText
  type : s.type.IsText
  serviceEndpoint : s.serviceEndpoint.IsGiven
  description : s.description.IsOptionalText

theorem built_typed {s : Service} (built : Built s) : Typed s := by
  obtain ⟨a, declared, made⟩ := built
  obtain ⟨_, _, made⟩ := except_bind_ok made
  cases made
  exact ⟨declared.id, declared.type, declared.serviceEndpoint, declared.description⟩

theorem made_of {s : Service} {a : Record}
    (known : Model.checkArguments ["id", "type", "service_endpoint"] ["description"] a = .ok ())
    (id : a.get "id" = s.id) (type : a.get "type" = s.type) (endpoint : a.get "service_endpoint" = s.serviceEndpoint)
    (description : a.get "description" = s.description) : ofArguments a = .ok s := by
  rw [ofArguments, known, id, type, endpoint, description]
  rfl

theorem restored {s : Service} (typed : Typed s) : ∃ good,
    Restored FieldKind.read FieldKind.dump s.attributes shape.fields good ∧ ofArguments good = .ok s := by
  obtain ⟨id, type, endpoint, description⟩ := s
  obtain ⟨⟨id, rfl, id_kept⟩, ⟨type, rfl, type_kept⟩, ⟨value, proper⟩, text⟩ := typed
  have writes : written FieldKind.dump (attributes ⟨.text id, .text type, endpoint, description⟩)
      (.needed "service_endpoint" "serviceEndpoint" .anything) = some endpoint := if_pos (congrArg not value)
  rcases text with rfl | ⟨description, rfl, description_kept⟩
  · exact ⟨_, .found rfl id_kept rfl (.found rfl type_kept rfl (.found writes proper rfl (.missing rfl rfl rfl .nil))),
      made_of rfl rfl rfl rfl rfl⟩
  · exact ⟨_, .found rfl id_kept rfl (.found rfl type_kept rfl (.found writes proper rfl
      (.found rfl description_kept rfl .nil))), made_of rfl rfl rfl rfl rfl⟩

theorem distinct : shape.Distinct := ⟨by decide, by decide⟩

theorem round_trips {s : Service} (typed : Typed s) : ∃ data, Model.RoundTrips model s data :=
  Model.round_trips_simple rfl distinct (restored typed)

end Service

namespace SignedTransaction

open Schema

-- `v` is an integer or a text by declaration, and could be any value.
structure Declared (a : Record) : Prop where
  r : (a.get "r").IsText
  s : (a.get "s").IsText
  v : (a.get "v").IsGiven
  signedRawTransaction : (a.get "signed_raw_transaction").IsText

def Built (t : SignedTransaction) : Prop := ∃ a, Declared a ∧ ofArguments a = .ok t

structure Typed (t : SignedTransaction) : Prop where
  r : t.r.IsText
  s : t.s.IsText
  v : t.v.IsGiven
  signedRawTransaction : t.signedRawTransaction.IsText

theorem built_typed {t : SignedTransaction} (built : Built t) : Typed t := by
  obtain ⟨a, declared, made⟩ := built
  obtain ⟨_, _, made⟩ := except_bind_ok made
  cases made
  exact ⟨declared.r, declared.s, declared.v, declared.signedRawTransaction⟩

theorem made_of {t : SignedTransaction} {a : Record}
    (known : Model.checkArguments ["r", "s", "v", "signed_raw_transaction"] [] a = .ok ()) (r : a.get "r" = t.r)
    (s : a.get "s" = t.s) (v : a.get "v" = t.v) (raw : a.get "signed_raw_transaction" = t.signedRawTransaction) :
    ofArguments a = .ok t := by
  rw [ofArguments, known, r, s, v, raw]
  rfl

theorem restored {t : SignedTransaction} (typed : Typed t) : ∃ good,
    Restored FieldKind.read FieldKind.dump t.attributes shape.fields good ∧ ofArguments good = .ok t := by
  obtain ⟨r, s, v, raw⟩ := t
  obtain ⟨⟨r, rfl, r_kept⟩, ⟨s, rfl, s_kept⟩, ⟨value, proper⟩, ⟨raw, rfl, raw_kept⟩⟩ := typed
  have writes : written FieldKind.dump (attributes ⟨.text r, .text s, v, .text raw⟩) (.needed "v" "v" .anything) =
      some v := if_pos (congrArg not value)
  exact ⟨_, .found rfl r_kept rfl (.found rfl s_kept rfl (.found writes proper rfl (.found rfl raw_kept rfl .nil))),
    made_of rfl rfl rfl rfl rfl⟩

theorem distinct : shape.Distinct := ⟨by decide, by decide⟩

theorem round_trips {t : SignedTransaction} (typed : Typed t) : ∃ data, Model.RoundTrips model t data :=
  Model.round_trips_simple rfl distinct (restored typed)

end SignedTransaction
end EbsiDid
