import EbsiDid.Proofs.Model.RoundTrip

set_option autoImplicit false

/-!
Identifiers are read back with their keys and services, in order, after anything was appended to them. All models are
read back from what is written of them. Their JSON is, too, but for a text in which two surrogates stand side by side as
a pair.
-/
namespace EbsiDid

namespace Identifier

open Schema

section Members

variable {α : Type} {make : Record → Except Error α}

def listed : Value → List Value
  | .list items => items
  | _ => []

theorem members_records (arguments : List Record) : members make (.list (arguments.map .record)) = arguments.mapM make := by
  cases arguments with
  | nil => rfl
  | cons a rest =>
      have truthy : (Value.list ((a :: rest).map .record)).truthy = true := rfl
      rw [members, if_pos truthy]
      simp only [List.mapM_map]
      rfl

theorem made_each {f : Value → Except Error α} {items : List Value} {made : List α} (makes : items.mapM f = .ok made) :
    ∀ m ∈ made, ∃ v ∈ items, f v = .ok m := by
  induction items generalizing made with
  | nil =>
      cases makes
      nofun
  | cons v rest ih =>
      rw [List.mapM_cons] at makes
      obtain ⟨first, here, makes⟩ := except_bind_ok makes
      obtain ⟨others, later, makes⟩ := except_bind_ok makes
      cases makes
      refine List.forall_mem_cons.mpr ⟨⟨v, List.mem_cons_self, here⟩, fun m member => ?_⟩
      obtain ⟨w, inside, made⟩ := ih later m member
      exact ⟨w, List.mem_cons_of_mem _ inside, made⟩

theorem members_made {v : Value} {made : List α} (makes : members make v = .ok made) :
    ∀ m ∈ made, ∃ a, .record a ∈ listed v ∧ make a = .ok m := by
  unfold members at makes
  split at makes
  · split at makes
    · intro m member
      obtain ⟨item, inside, made⟩ := made_each makes m member
      split at made
      · exact ⟨_, inside, made⟩
      · cases made
    · cases makes
  · cases makes
    nofun

end Members

structure Declared (a : Record) : Prop where
  did : (a.get "did").IsText
  controllerKeyId : (a.get "controller_key_id").IsText
  keys : ∀ k, .record k ∈ listed (a.get "keys") → KeyDescriptor.Declared k
  services : ∀ s, .record s ∈ listed (a.get "services") → Service.Declared s
  nickname : (a.get "alias").IsOptionalText
  provider : (a.get "provider").IsOptionalText

-- Made of declared arguments, with keys and services appended later.
inductive Built : Identifier → Prop
  | made {a : Record} {i : Identifier} : Declared a → ofArguments a = .ok i → Built i
  | keyAdded {i : Identifier} {k : KeyDescriptor} : Built i → KeyDescriptor.Built k → Built (i.addKey k)
  | serviceAdded {i : Identifier} {s : Service} : Built i → Service.Built s → Built (i.addService s)

structure Typed (i : Identifier) : Prop where
  did : i.did.IsText
  controllerKeyId : i.controllerKeyId.IsText
  keys : ∀ k ∈ i.keys, KeyDescriptor.Typed k
  services : ∀ s ∈ i.services, Service.Typed s
  nickname : i.nickname.IsOptionalText
  provider : i.provider.IsOptionalText

theorem made_typed {a : Record} {i : Identifier} (declared : Declared a) (made : ofArguments a = .ok i) : Typed i := by
  obtain ⟨keys, keys_made, made⟩ := except_bind_ok made
  obtain ⟨services, services_made, made⟩ := except_bind_ok made
  obtain ⟨_, _, made⟩ := except_bind_ok made
  cases made
  refine ⟨declared.did, declared.controllerKeyId, ?_, ?_, declared.nickname, declared.provider⟩
  · intro k member
    obtain ⟨b, inside, built⟩ := members_made keys_made k member
    exact KeyDescriptor.built_typed ⟨b, declared.keys b inside, built⟩
  · intro s member
    obtain ⟨b, inside, built⟩ := members_made services_made s member
    exact Service.built_typed ⟨b, declared.services b inside, built⟩

theorem add_key_typed {i : Identifier} {k : KeyDescriptor} (typed : Typed i) (key : KeyDescriptor.Typed k) :
    Typed (i.addKey k) :=
  { typed with keys := List.forall_mem_append.mpr ⟨typed.keys, List.forall_mem_singleton.mpr key⟩ }

theorem add_service_typed {i : Identifier} {s : Service} (typed : Typed i) (service : Service.Typed s) :
    Typed (i.addService s) :=
  { typed with services := List.forall_mem_append.mpr ⟨typed.services, List.forall_mem_singleton.mpr service⟩ }

theorem built_typed {i : Identifier} (built : Built i) : Typed i := by
  induction built with
  | made declared made => exact made_typed declared made
  | keyAdded _ key ih => exact add_key_typed ih (KeyDescriptor.built_typed key)
  | serviceAdded _ service ih => exact add_service_typed ih (Service.built_typed service)

theorem made_of {i : Identifier} {a : Record}
    (known : Model.checkArguments ["did", "controller_key_id"] ["keys", "services", "alias", "provider"] a = .ok ())
    (did : a.get "did" = i.did) (controller : a.get "controller_key_id" = i.controllerKeyId)
    (keys : members KeyDescriptor.ofArguments (a.get "keys") = .ok i.keys)
    (services : members Service.ofArguments (a.get "services") = .ok i.services)
    (nickname : a.get "alias" = i.nickname) (provider : a.get "provider" = i.provider) : ofArguments a = .ok i := by
  rw [ofArguments, keys, services, known, did, controller, nickname, provider]
  rfl

theorem distinct : shape.Distinct := ⟨by decide, by decide⟩

theorem restored {i : Identifier} (typed : Typed i) : ∃ good,
    Restored Nesting.read Nesting.dump i.attributes shape.fields good ∧ ofArguments good = .ok i := by
  obtain ⟨did, controller, keys, services, nickname, provider⟩ := i
  obtain ⟨⟨did, rfl, did_kept⟩, ⟨controller, rfl, controller_kept⟩, keys_typed, services_typed, nickname_text,
    provider_text⟩ := typed
  obtain ⟨key_goods, keys_back, keys_made⟩ := restored_each fun k member => KeyDescriptor.restored (keys_typed k member)
  obtain ⟨service_goods, services_back, services_made⟩ :=
    restored_each fun s member => Service.restored (services_typed s member)
  rw [← members_records] at keys_made services_made
  have opening {tail : Record} (ending : Restored Nesting.read Nesting.dump
      (attributes ⟨.text did, .text controller, keys, services, nickname, provider⟩)
      [.orNull "alias" "alias" (.simple .text), .orNull "provider" "provider" (.simple .text)] tail) :
      Restored Nesting.read Nesting.dump (attributes ⟨.text did, .text controller, keys, services, nickname, provider⟩)
        shape.fields (("did", .text did) :: ("controller_key_id", .text controller) ::
          ("keys", .list (key_goods.map .record)) :: ("services", .list (service_goods.map .record)) :: tail) :=
    .found rfl did_kept rfl (.found rfl controller_kept rfl
      (.found (congrArg some (dump_records keys)) (records_proper KeyDescriptor.distinct keys_back)
          (read_records KeyDescriptor.distinct keys_back)
        (.found (congrArg some (dump_records services)) (records_proper Service.distinct services_back)
          (read_records Service.distinct services_back) ending)))
  rcases nickname_text with rfl | ⟨nickname, rfl, nickname_kept⟩
  · rcases provider_text with rfl | ⟨provider, rfl, provider_kept⟩
    · exact ⟨_, opening (.missing rfl rfl rfl (.missing rfl rfl rfl .nil)),
        made_of rfl rfl rfl keys_made services_made rfl rfl⟩
    · exact ⟨_, opening (.missing rfl rfl rfl (.found rfl provider_kept rfl .nil)),
        made_of rfl rfl rfl keys_made services_made rfl rfl⟩
  · rcases provider_text with rfl | ⟨provider, rfl, provider_kept⟩
    · exact ⟨_, opening (.found rfl nickname_kept rfl (.missing rfl rfl rfl .nil)),
        made_of rfl rfl rfl keys_made services_made rfl rfl⟩
    · exact ⟨_, opening (.found rfl nickname_kept rfl (.found rfl provider_kept rfl .nil)),
        made_of rfl rfl rfl keys_made services_made rfl rfl⟩

theorem round_trips {i : Identifier} (typed : Typed i) : ∃ data, Model.RoundTrips model i data := by
  obtain ⟨good, back, made⟩ := restored typed
  exact ⟨_, Model.round_trips rfl distinct back made⟩

end Identifier

theorem models_round_trip :
    (∀ k, KeyDescriptor.Built k → ∃ data, Model.RoundTrips KeyDescriptor.model k data) ∧
    (∀ s, Service.Built s → ∃ data, Model.RoundTrips Service.model s data) ∧
    (∀ t, SignedTransaction.Built t → ∃ data, Model.RoundTrips SignedTransaction.model t data) ∧
    (∀ i, Identifier.Built i → ∃ data, Model.RoundTrips Identifier.model i data) :=
  ⟨fun _ built => KeyDescriptor.round_trips (KeyDescriptor.built_typed built),
    fun _ built => Service.round_trips (Service.built_typed built),
    fun _ built => SignedTransaction.round_trips (SignedTransaction.built_typed built),
    fun _ built => Identifier.round_trips (Identifier.built_typed built)⟩

namespace Identifier

def grown : Identifier :=
  let key : KeyDescriptor :=
    ⟨.text "k1", .secp256k1, .text "02ab", .null, .ofList [.capabilityInvocation], .bool true⟩
  let service : Service := ⟨.text "s1", .text "Hub", .record [("uri", .list [.int 1, .bool true])], .text "hub"⟩
  (addKey ⟨.text "did:ebsi:z1", .text "k1", [], [], .text "main", .null⟩ key).addService service

theorem grown_built : Built grown := by
  refine .serviceAdded (.keyAdded (.made (a := [("did", .text "did:ebsi:z1"), ("controller_key_id", .text "k1"),
    ("alias", .text "main")]) ?_ rfl) ⟨KeyDescriptor.attributes _, ?_, KeyDescriptor.made_of rfl rfl rfl rfl rfl rfl rfl⟩)
    ⟨Service.attributes _, ?_, Service.made_of rfl rfl rfl rfl rfl⟩
  · exact ⟨⟨_, rfl, by decide⟩, ⟨_, rfl, by decide⟩, nofun, nofun, .inr ⟨_, rfl, by decide⟩, .inl rfl⟩
  · refine ⟨⟨_, rfl, by decide⟩, ⟨_, rfl, by decide⟩, .inl rfl, ?_⟩
    rintro v given
    cases given
    exact ⟨true, rfl⟩
  · have uris : (Value.list [.int 1, .bool true]).Proper :=
      ⟨(by decide +kernel : Json.Short 1), trivial, trivial⟩
    exact ⟨⟨_, rfl, by decide⟩, ⟨_, rfl, by decide⟩, ⟨rfl, by decide, by decide, uris, trivial⟩,
      .inr ⟨_, rfl, by decide⟩⟩

theorem grown_round_trips :
    Built grown ∧ (model.toJson grown).bind model.fromJson = .silent (.ok grown) := by
  obtain ⟨data, trips⟩ := models_round_trip.2.2.2 grown grown_built
  have written := trips.written
  cases written
  exact ⟨grown_built, trips.parsed (by decide +kernel)⟩

end Identifier

namespace Service

-- The id consists of the two halves of one character.
def halved : Service :=
  ⟨.text (String.ofList (Text.ofPoints [0xd83d, 0xde00])), .text "Hub", .text "hub", .null⟩

theorem halved_built : Built halved :=
  ⟨halved.attributes, ⟨⟨_, rfl, Json.kept_of_points (by decide)⟩, ⟨_, rfl, by decide⟩,
    ⟨rfl, (by decide : Json.Kept "hub")⟩, .inl rfl⟩, rfl⟩

-- Read back, the id is the one character.
theorem json_read_otherwise :
    Built halved ∧ ((model.toJson halved).bind fun text =>
      (model.fromJson text).bind (model.same halved)).result.toOption = some false :=
  ⟨halved_built, by decide +kernel⟩

end Service
end EbsiDid
