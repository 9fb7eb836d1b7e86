import EbsiDid.Proofs.Key.Assignment
import EbsiDid.Proofs.Registrar.Preparation
import EbsiDid.Proofs.Registry.Step
import EbsiDid.Proofs.Wallet.Material

set_option autoImplicit false

/-!
Writing a new identifier to the registry: the document with the controller key, the second key, and the
relationship that the second key serves. The three steps are made apart and agree with each other.
-/
namespace EbsiDid

namespace EbsiRegistrar

variable {τ : Type}

theorem creation_relationship_assertion {k : KeyDescriptor} (serves : .assertionMethod ∈ k.purposes) :
    creationRelationship k = .assertionMethod := by
  have has : k.purposes.has .assertionMethod = true := serves
  rw [creationRelationship, has, Bool.or_true]
  rfl

theorem creation_relationship_member {k : KeyDescriptor} (nonempty : k.purposes.isEmpty = false) :
    creationRelationship k ∈ k.purposes := by
  cases has : k.purposes.has .assertionMethod with
  | true =>
      rw [creation_relationship_assertion has]
      exact has
  | false =>
      rw [creationRelationship, nonempty, has]
      cases members : k.purposes.toList with
      | nil =>
          rw [PurposeSet.isEmpty, members] at nonempty
          cases nonempty
      | cons first more =>
          have member : first ∈ k.purposes.toList := by
            rw [members]
            exact List.mem_cons_self
          exact (PurposeSet.mem_toList _ _).mp member

theorem creation_steps (did : Value) {controller second : KeyDescriptor} {sender controllerId secondId text otherText : String}
    (v : Validity) (baseDocument : Value) (address : controller.address = .ok sender)
    (controllerMethod : controller.methodId = .ok controllerId) (stored : controller.registryText = .ok text)
    (secondMethod : second.methodId = .ok secondId) (otherStored : second.registryText = .ok otherText) :
    ∃ insert method, creationSteps did controller second v baseDocument = .ok [insert, method,
        WriteStep.relationship sender did secondId (creationRelationship second) v.notBefore v.notAfter] ∧
      (insert.method = .insertDidDocument ∧ insert.Concerns sender did controllerId ∧
        insert.member "notBefore" = v.notBefore ∧ insert.member "notAfter" = v.notAfter) ∧
      method.method = .addVerificationMethod ∧ method.Concerns sender did secondId := by
  obtain ⟨insert, inserted, inserts, concerns, start, stop⟩ :=
    WriteStep.insert_document_of_parts did v.notBefore v.notAfter baseDocument address controllerMethod stored
  obtain ⟨method, added, adds, concernsToo, _⟩ := WriteStep.add_method_of_parts did address secondMethod otherStored
  have related := WriteStep.add_relationship_of_parts did (creationRelationship second) v.notBefore v.notAfter address secondMethod
  refine ⟨insert, method, ?_, ⟨inserts, concerns, start, stop⟩, adds, concernsToo⟩
  rw [creationSteps, inserted, added, related]
  rfl

-- Keys of which both points can be loaded have everything that the steps are made of.
theorem creation_steps_loaded (did : Value) {controller second : KeyDescriptor} {q r : Point} (v : Validity) (baseDocument : Value)
    (type : controller.type = .secp256k1) (loads : PublicKey.load controller.publicKeyHex .secp256k1 = .ok q)
    (secondLoads : PublicKey.load second.publicKeyHex second.type = .ok r) :
    ∃ sender controllerId secondId, controller.address = .ok sender ∧ controller.methodId = .ok controllerId ∧
      second.methodId = .ok secondId ∧
      ∃ insert method, creationSteps did controller second v baseDocument = .ok [insert, method,
          WriteStep.relationship sender did secondId (creationRelationship second) v.notBefore v.notAfter] ∧
        (insert.method = .insertDidDocument ∧ insert.Concerns sender did controllerId ∧
          insert.member "notBefore" = v.notBefore ∧ insert.member "notAfter" = v.notAfter) ∧
        method.method = .addVerificationMethod ∧ method.Concerns sender did secondId := by
  have typed : PublicKey.load controller.publicKeyHex controller.type = .ok q := by
    rw [type]
    exact loads
  obtain ⟨sender, address⟩ := KeyDescriptor.address_total loads
  obtain ⟨controllerId, controllerMethod⟩ := KeyDescriptor.method_id_total typed
  obtain ⟨text, stored⟩ := KeyDescriptor.registry_text_total typed
  obtain ⟨secondId, secondMethod⟩ := KeyDescriptor.method_id_total secondLoads
  obtain ⟨otherText, otherStored⟩ := KeyDescriptor.registry_text_total secondLoads
  exact ⟨sender, controllerId, secondId, address, controllerMethod, secondMethod,
    creation_steps did v baseDocument address controllerMethod stored secondMethod otherStored⟩

theorem creation_steps_unloaded (did : Value) {controller second : KeyDescriptor} (v : Validity) (baseDocument : Value)
    (unloaded : ¬ ((∃ q, PublicKey.load controller.publicKeyHex .secp256k1 = .ok q) ∧
      ∃ q, PublicKey.load second.publicKeyHex second.type = .ok q)) :
    ∃ e, creationSteps did controller second v baseDocument = .error e := by
  obtain ⟨e, unbuilt⟩ := WriteStep.add_method_unloaded did unloaded
  cases inserted : WriteStep.insertDocument did controller v.notBefore v.notAfter baseDocument with
  | error other =>
      rw [creationSteps, inserted]
      exact ⟨other, rfl⟩
  | ok insert =>
      rw [creationSteps, inserted, unbuilt]
      exact ⟨e, rfl⟩

-- What a call that builds is about.
structure About (p : Partners τ) (o : Record) (did : Value) (controller second : KeyDescriptor) (c : RpcCall) : Prop where
  sender : ∃ sender, controller.address = .ok sender ∧ c.member "from" = .text sender
  did : c.member "did" = did
  inserts : c.method = .text "insertDidDocument" →
    ∃ methodId, controller.methodId = .ok methodId ∧ c.member "vMethodId" = .text methodId
  adds : c.method ≠ .text "insertDidDocument" →
    ∃ methodId, second.methodId = .ok methodId ∧ c.member "vMethodId" = .text methodId
  lasts : c.method ≠ .text "addVerificationMethod" → ∃ v, Validity.ofOptions o p.clock = .ok v ∧
    c.member "notBefore" = v.notBefore ∧ c.member "notAfter" = v.notAfter
  grants : c.method = .text "addVerificationMethodRelationship" → ∃ purpose ∈ second.purposes,
    c.member "name" = .text purpose.name ∧ (.assertionMethod ∈ second.purposes → purpose = .assertionMethod)

-- A prepared creation as its identifier is written to the registry. What the second key serves is what was
-- assigned to it by its type and its options.
structure Registering (reg : EbsiRegistrar) (p : Partners τ) (nickname : Value) (o : Record) (plan : Plan)
    (controller second : KeyDescriptor) (ready : Desk τ) (contacts : List Contact) (ended : Ended τ Identifier) : Prop where
  played : Plays p.transport p.signer { ready with random := ended.desk.random } contacts ended.desk
  requested : ended.trace.requests = contacts.map Contact.request
  order : (Contact.calls contacts).map RpcCall.method <+:
    [.text "insertDidDocument", .text "sendSignedTransaction", .text "addVerificationMethod",
     .text "sendSignedTransaction", .text "addVerificationMethodRelationship", .text "sendSignedTransaction"]
  built : ∀ c ∈ Contact.calls contacts, c.method ≠ .text "sendSignedTransaction" → About p o plan.did controller second c
  signer : ∀ signature ∈ Contact.signatures contacts, signature.1 = controller.kid
  begins : contacts = [] → (∃ e, Validity.ofOptions o p.clock = .error e) ∨ Unready reg o ready ∨
    ¬ ((∃ q, PublicKey.load controller.publicKeyHex .secp256k1 = .ok q) ∧
      ∃ q, PublicKey.load second.publicKeyHex second.type = .ok q)
  stops : ∀ contact ∈ contacts.dropLast, contact.succeeds = true
  finishes : contacts ≠ [] → (∀ contact ∈ contacts, contact.succeeds = true) → ∃ i, ended.result = .ok i
  returns : (∃ i, ended.result = .ok i) ↔
    (Contact.calls contacts).length = 6 ∧ (Contact.signatures contacts).length = 3 ∧
      ∀ contact ∈ contacts, contact.succeeds = true
  identifier : ∀ i, ended.result = .ok i → i = created plan controller second nickname

section Registrations

variable {reg : EbsiRegistrar} {p : Partners τ} {nickname : Value} {o : Record} {plan : Plan}
  {controller second : KeyDescriptor} {ready : Desk τ}

theorem registering_not_begun {e : Error} {ended : Ended τ Identifier} (failed : ended.result = .error e)
    (silent : ended.trace.requests = []) (still : ended.desk = ready)
    (unready : (∃ e, Validity.ofOptions o p.clock = .error e) ∨ Unready reg o ready ∨
      ¬ ((∃ q, PublicKey.load controller.publicKeyHex .secp256k1 = .ok q) ∧
        ∃ q, PublicKey.load second.publicKeyHex second.type = .ok q)) :
    Registering reg p nickname o plan controller second ready [] ended := by
  refine ⟨?_, silent, List.nil_prefix, nofun, nofun, fun _ => unready, nofun, fun begun => absurd rfl begun, ?_, ?_⟩
  · rw [still]
    rfl
  · rw [failed]
    exact ⟨nofun, fun counts => absurd counts.1 (by decide)⟩
  · intro i returned
    rw [failed] at returned
    cases returned

section Builds

variable {v : Validity} {sender methodId : String} {step : WriteStep} {did : Value} (terms : SessionTerms) (id : Value)

theorem about_inserting (interval : Validity.ofOptions o p.clock = .ok v) (address : controller.address = .ok sender)
    (controllerMethod : controller.methodId = .ok methodId)
    (inserts : step.method = .insertDidDocument ∧ step.Concerns sender did methodId ∧
      step.member "notBefore" = v.notBefore ∧ step.member "notAfter" = v.notAfter) :
    About p o did controller second (LedgerSession.buildCall terms id step) := by
  obtain ⟨named, concerns, start, stop⟩ := inserts
  have method : (LedgerSession.buildCall terms id step).method = .text "insertDidDocument" := by
    rw [LedgerSession.buildCall, named]
    rfl
  refine ⟨⟨sender, address, ?_⟩, ?_, fun _ => ⟨methodId, controllerMethod, ?_⟩, fun other => absurd method other,
    fun _ => ⟨v, interval, ?_, ?_⟩, ?_⟩
  · rw [WriteStep.member_build, concerns.sender]
  · rw [WriteStep.member_build, concerns.did]
  · rw [WriteStep.member_build, concerns.methodId]
  · rw [WriteStep.member_build, start]
  · rw [WriteStep.member_build, stop]
  · rw [method]
    intro same
    exact absurd (Value.text.inj same) (by decide)

theorem about_adding (address : controller.address = .ok sender) (secondMethod : second.methodId = .ok methodId)
    (adds : step.method = .addVerificationMethod ∧ step.Concerns sender did methodId) :
    About p o did controller second (LedgerSession.buildCall terms id step) := by
  obtain ⟨named, concerns⟩ := adds
  have method : (LedgerSession.buildCall terms id step).method = .text "addVerificationMethod" := by
    rw [LedgerSession.buildCall, named]
    rfl
  refine ⟨⟨sender, address, ?_⟩, ?_, ?_, fun _ => ⟨methodId, secondMethod, ?_⟩, fun other => absurd method other, ?_⟩
  · rw [WriteStep.member_build, concerns.sender]
  · rw [WriteStep.member_build, concerns.did]
  · rw [method]
    intro same
    exact absurd (Value.text.inj same) (by decide)
  · rw [WriteStep.member_build, concerns.methodId]
  · rw [method]
    intro same
    exact absurd (Value.text.inj same) (by decide)

theorem about_granting (interval : Validity.ofOptions o p.clock = .ok v) (address : controller.address = .ok sender)
    (secondMethod : second.methodId = .ok methodId) (nonempty : second.purposes.isEmpty = false) :
    About p o did controller second (LedgerSession.buildCall terms id
      (WriteStep.relationship sender did methodId (creationRelationship second) v.notBefore v.notAfter)) := by
  refine ⟨⟨sender, address, rfl⟩, rfl, ?_, fun _ => ⟨methodId, secondMethod, rfl⟩, fun _ => ⟨v, interval, rfl, rfl⟩,
    fun _ => ⟨creationRelationship second, creation_relationship_member nonempty, rfl, creation_relationship_assertion⟩⟩
  intro same
  have other : RpcMethod.addVerificationMethodRelationship.name ≠ "insertDidDocument" := by decide
  exact absurd (Value.text.inj same) other

end Builds

theorem registering_of_session {v : Validity} {sender controllerId secondId : String} {terms : SessionTerms} {id : Value}
    {insert method : WriteStep} {contacts : List Contact} {result : Except Error (List Value)} {ended : Ended τ Identifier}
    (kid : terms.kid = controller.kid) (interval : Validity.ofOptions o p.clock = .ok v)
    (address : controller.address = .ok sender) (controllerMethod : controller.methodId = .ok controllerId)
    (secondMethod : second.methodId = .ok secondId) (nonempty : second.purposes.isEmpty = false)
    (inserts : insert.method = .insertDidDocument ∧ insert.Concerns sender plan.did controllerId ∧
      insert.member "notBefore" = v.notBefore ∧ insert.member "notAfter" = v.notAfter)
    (adds : method.method = .addVerificationMethod ∧ method.Concerns sender plan.did secondId)
    (played : Plays p.transport p.signer { ready with random := ended.desk.random } contacts ended.desk)
    (requested : ended.trace.requests = contacts.map Contact.request)
    (session : LedgerSession.Session terms id [insert, method, WriteStep.relationship sender plan.did secondId
      (creationRelationship second) v.notBefore v.notAfter] contacts result)
    (ends : ended.result = result.map (fun _ => created plan controller second nickname)) :
    Registering reg p nickname o plan controller second ready contacts ended := by
  have returns : (∃ i, ended.result = .ok i) ↔ ∃ receipts, result = .ok receipts := by
    rw [ends, LedgerSession.map_returns]
  refine ⟨played, requested, ?_, ?_, ?_, ?_, LedgerSession.session_succeeds_before_last session, ?_, ?_, ?_⟩
  · have calls := LedgerSession.session_calls_prefix RpcCall.method (.text "sendSignedTransaction") (fun _ _ => rfl) session
    simp only [LedgerSession.buildCall, List.flatMap_cons, inserts.1, adds.1] at calls
    exact calls
  · intro c member building
    obtain ⟨step, among, rfl⟩ := LedgerSession.session_builds session member building
    simp only [List.mem_cons, List.not_mem_nil, or_false] at among
    rcases among with rfl | rfl | rfl
    · exact about_inserting terms id interval address controllerMethod inserts
    · exact about_adding terms id address secondMethod adds
    · exact about_granting terms id interval address secondMethod nonempty
  · intro signature member
    exact (LedgerSession.session_signatures session member).trans kid
  · intro empty
    exact absurd empty (LedgerSession.session_begins session)
  · intro _ succeeded
    exact returns.mpr (LedgerSession.session_finishes session succeeded)
  · rw [returns]
    exact LedgerSession.session_returns_iff session
  · intro i returned
    rw [ends] at returned
    cases result with
    | error e => cases returned
    | ok receipts =>
        cases returned
        rfl

-- Writing, once all that goes before it is settled.
theorem register_registering (assigned : second.purposes.isEmpty = false) (type : controller.type = .secp256k1)
    {ended : Ended τ Identifier}
    (written : let written := reg.register p o plan.did controller second ready
      ended.result = written.result.map (fun _ => created plan controller second nickname) ∧
        ended.trace.requests = written.trace.requests ∧ ended.desk = written.desk) :
    ∃ contacts, Registering reg p nickname o plan controller second ready contacts ended := by
  obtain ⟨ends, traced, last⟩ := written
  cases interval : Validity.ofOptions o p.clock with
  | error e =>
      rw [register, interval, Act.of_except_bind_error] at ends traced last
      exact ⟨[], registering_not_begun ends traced last (.inl ⟨e, interval⟩)⟩
  | ok v =>
      rw [register, interval, Act.of_except_bind_ok] at ends traced last
      by_cases loaded : (∃ q, PublicKey.load controller.publicKeyHex .secp256k1 = .ok q) ∧
          ∃ q, PublicKey.load second.publicKeyHex second.type = .ok q
      · obtain ⟨⟨q, sends⟩, other, loads⟩ := loaded
        obtain ⟨sender, controllerId, secondId, address, controllerMethod, secondMethod, insert, method, built, inserts, adds⟩ :=
          creation_steps_loaded plan.did v (o.get "base_document") type sends loads
        rw [built] at ends traced last
        obtain ⟨e, run, unready⟩ | ⟨terms, id, contacts, kid, played, requested, session⟩ := write_cases reg p
          controller.kid o [insert, method, WriteStep.relationship sender plan.did secondId (creationRelationship second)
            v.notBefore v.notAfter] ready
        · rw [run] at ends traced last
          exact ⟨[], registering_not_begun ends traced last (.inr (.inl unready))⟩
        · rw [← last] at played
          exact ⟨contacts, registering_of_session kid interval address controllerMethod secondMethod assigned inserts adds
            played (traced.trans requested) session ends⟩
      · obtain ⟨e, unbuilt⟩ := creation_steps_unloaded plan.did v (o.get "base_document") loaded
        rw [unbuilt, write_unbuilt] at ends traced last
        exact ⟨[], registering_not_begun ends traced last (.inr (.inr loaded))⟩

end Registrations

-- Either the checks fail and nothing is asked for, or the new identifier is written step by step. What the
-- second key serves is then what its type and its options assign to it.
theorem create_registers (reg : EbsiRegistrar) (p : Partners τ) (kms nickname : Value) (choice : SpecChoice)
    (options : Value) (d : Desk τ) :
    let ended := reg.createIdentifier p kms nickname choice options d
    ((¬ ∃ o plan controller second controllerText secondText,
        Prepared reg kms choice options d o plan controller second controllerText secondText) →
      (∃ e, ended.result = .error e) ∧ ended.trace.requests = []) ∧
    ∀ o plan controller second controllerText secondText,
      Prepared reg kms choice options d o plan controller second controllerText secondText → executes o = true →
      (∃ keyOptions, optionsOf (o.get "secp256r1_key") = .ok keyOptions ∧
        PurposeSet.assign second.type (keyOptions.get "purposes") = .ok second.purposes) ∧
      ∃ contacts, Registering reg p nickname o plan controller second
        (furnished { d with random := (reg.plan kms choice o d).desk.random } controller second controllerText secondText)
        contacts ended := by
  intro ended
  constructor
  · exact create_refused reg p kms nickname choice options d
  · intro o plan controller second controllerText secondText prepared online
    obtain ⟨settledController, settledSecond⟩ := plan_settled prepared.planned
    obtain ⟨_, _, rfl⟩ := prepared.derivesController.descriptor
    obtain ⟨_, _, rfl⟩ := prepared.derivesSecond.descriptor
    obtain ⟨keyOptions, given, _, assigned⟩ := settledSecond.options
    have finished := create_finished reg p kms nickname choice options d prepared
    exact ⟨⟨keyOptions, given, assigned⟩,
      register_registering (PurposeSet.assigned_nonempty assigned) (settledController.type rfl) (finished.written online)⟩

-- All options are given, and the registry takes every call.
theorem create_registers_chosen :
    let reg : EbsiRegistrar := ⟨.null, []⟩
    let p : Partners Unit := ⟨LedgerSession.accepting, LedgerSession.ready, .int 0⟩
    let d : Desk Unit := ⟨⟨[], [.int 42]⟩, KeyManager.empty, ()⟩
    let o := chosenOptions "k1" "k2" true
    let controller := chosenDescriptor "k1" .secp256k1 true
    let second := chosenDescriptor "k2" .secp256r1 false
    let ended := reg.createIdentifier p (.text "local") .null .usual (.record o) d
    Prepared reg (.text "local") .usual (.record o) d o (chosenPlan "k1" "k2") controller second oneText oneText ∧
      executes o = true ∧
      (∃ ready contacts, Registering reg p .null o (chosenPlan "k1" "k2") controller second ready contacts ended) ∧
      ended.result = .ok (created (chosenPlan "k1" "k2") controller second .null) := by
  intro reg p d o controller second ended
  have prepared := chosen_prepared reg (by decide : "k1" ≠ "") (by decide : "k2" ≠ "") true d
  have online : executes o = true := rfl
  have kept : (reg.plan (.text "local") .usual o d).desk = d := congrArg Ended.desk (chosen_plan reg "k1" "k2" true d)
  have started : Validity.ofOptions o p.clock = .ok ⟨.int 1, .int Registry.maxNotAfter⟩ := rfl
  have addressed : reg.addressOptions o = .ok (.record []) := rfl
  obtain ⟨_, contacts, registers⟩ :=
    (create_registers reg p (.text "local") .null .usual (.record o) d).2 o (chosenPlan "k1" "k2") controller second oneText oneText
      prepared online
  rw [kept] at registers
  have begun : contacts ≠ [] := by
    intro empty
    rcases registers.begins empty with ⟨e, unset⟩ | unready | unloaded
    · rw [started] at unset
      cases unset
    · cases unready with
      | address e failed =>
          rw [addressed] at failed
          cases failed
      | rpcIds _ exhausted => cases exhausted
    · exact unloaded ⟨KeyManager.derived_loads prepared.derivesController, KeyManager.derived_loads prepared.derivesSecond⟩
  obtain ⟨i, returned⟩ := registers.finishes begun (LedgerSession.accepted_succeeds registers.played)
  rw [registers.identifier i returned] at returned
  exact ⟨prepared, online, ⟨_, contacts, registers⟩, returned⟩

end EbsiRegistrar
end EbsiDid
