import EbsiDid.Proofs.Curve.BasePoint
import EbsiDid.Proofs.Key.Loading
import EbsiDid.Proofs.Registrar.Writing
import EbsiDid.Proofs.Registry.Step

set_option autoImplicit false

/-!
Adding a key to an identifier. Whatever is wrong with the request is found before the registry is asked
for anything, and the identifier changes only when the registry has taken every step.
-/
namespace EbsiDid

theorem seen_once (purposes seen : List Purpose) :
    purposes.foldl (fun seen p => if seen.contains p then seen else seen ++ [p]) seen =
      seen ++ (purposes.filter fun p => !seen.contains p).eraseDups := by
  induction purposes generalizing seen with
  | nil => simp
  | cons p rest ih =>
      rw [List.foldl_cons, ih, List.filter_cons]
      cases before : seen.contains p with
      | true => rfl
      | false =>
          have later : ∀ q, (!(seen ++ [p]).contains q) = (!(q == p) && !seen.contains q) := by
            intro q
            rw [List.contains_append, Bool.not_or, Bool.and_comm, List.contains_cons, List.contains_nil, Bool.or_false]
          simp only [Bool.false_eq_true, if_false, Bool.not_false, if_true, later, List.eraseDups_cons,
            List.filter_filter, List.append_assoc, List.singleton_append]

theorem once_each (purposes : List Purpose) : onceEach purposes = purposes.eraseDups := by
  have every : (purposes.filter fun p => !List.contains [] p) = purposes := List.filter_eq_self.mpr fun _ _ => rfl
  rw [onceEach, seen_once, every, List.nil_append]

-- The names in a request for relationships, none where it cannot be gone through.
def namesGiven (names : Value) : List Value :=
  match names with
  | .text _ => [names]
  | _ => if names.truthy then names.items?.getD [] else []

theorem names_requested (names : Value) :
    namesRequested names = .ok (namesGiven names) ∨
      (∃ e, namesRequested names = .error e) ∧ namesGiven names = [] := by
  cases names with
  | text s => exact .inl rfl
  | null => exact .inl rfl
  | bool b =>
      cases b with
      | false => exact .inl rfl
      | true => exact .inr ⟨⟨_, rfl⟩, rfl⟩
  | int n =>
      cases counts : Value.truthy (.int n) <;> simp [namesRequested, namesGiven, Purpose.namesIn, Value.items?, counts]
  | real x =>
      cases counts : Value.truthy (.real x) <;> simp [namesRequested, namesGiven, Purpose.namesIn, Value.items?, counts]
  | list items => cases items <;> exact .inl rfl
  | record fields => cases fields <;> exact .inl rfl

-- The purposes that names stand for. They are at least one, and every name is known.
def KnownNames (names : List Value) (purposes : List Purpose) : Prop :=
  names.mapM Purpose.ofValue? = some purposes ∧ purposes ≠ []

theorem nothing_named (purposes : List Purpose) : ¬ KnownNames [] purposes := by
  rintro ⟨named, nonempty⟩
  cases named
  exact nonempty rfl

theorem named_cons (first : Value) (more : List Value) (purposes : List Purpose) :
    KnownNames (first :: more) purposes ↔ (first :: more).mapM Purpose.ofValue? = some purposes := by
  refine ⟨And.left, fun named => ⟨named, ?_⟩⟩
  rintro rfl
  simp [List.mapM_cons, Option.bind_eq_some_iff] at named

theorem purposes_once_each (values : List Value) (rels : List Purpose) :
    (Purpose.ofValues values >>= fun purposes => .ok (onceEach purposes)) = .ok rels ↔
      ∃ purposes, values.mapM Purpose.ofValue? = some purposes ∧ rels = purposes.eraseDups := by
  rw [Purpose.ofValues]
  cases values.mapM Purpose.ofValue? with
  | none => exact ⟨nofun, nofun⟩
  | some purposes =>
      have once : (.ok (onceEach purposes) : Except Error (List Purpose)) = .ok rels ↔ rels = purposes.eraseDups := by
        rw [once_each, Except.ok.injEq]
        exact eq_comm
      refine once.trans ?_
      simp

theorem relationships_of_names (names : Value) (rels : List Purpose) :
    relationshipsOf names = .ok rels ↔ ∃ purposes, KnownNames (namesGiven names) purposes ∧ rels = purposes.eraseDups := by
  have unnamed : ¬ ∃ purposes, KnownNames [] purposes ∧ rels = purposes.eraseDups := fun named =>
    nothing_named named.choose named.choose_spec.1
  obtain given | ⟨⟨e, failed⟩, none⟩ := names_requested names
  · rw [relationshipsOf, given]
    cases namesGiven names with
    | nil => exact ⟨nofun, fun named => absurd named unnamed⟩
    | cons first more =>
        simp only [named_cons]
        exact purposes_once_each (first :: more) rels
  · rw [relationshipsOf, failed, none]
    exact ⟨nofun, fun named => absurd named unnamed⟩

namespace EbsiRegistrar

variable {τ : Type}

-- What has to be right before the registry is asked to take a key.
structure Admitted (identifier : Identifier) (key : KeyDescriptor) (options : Value) (o : Record)
    (purposes : List Purpose) (controller : KeyDescriptor) : Prop where
  options : optionsOf options = .ok o
  named : KnownNames (namesGiven (o.get "vm_relationships")) purposes
  bearer : (o.get "bearer_token").truthy = true
  found : (identifier.keys.find? fun k => k.kid.equals identifier.controllerKeyId) = some controller
  sends : ∃ q, PublicKey.load controller.publicKeyHex .secp256k1 = .ok q
  loads : ∃ q, PublicKey.load key.publicKeyHex key.type = .ok q

theorem controller_key_found {identifier : Identifier} {controller : KeyDescriptor} :
    identifier.controllerKey = .ok controller ↔
      (identifier.keys.find? fun k => k.kid.equals identifier.controllerKeyId) = some controller := by
  unfold Identifier.controllerKey
  cases identifier.keys.find? fun k => k.kid.equals identifier.controllerKeyId with
  | none => exact ⟨nofun, nofun⟩
  | some k => exact ⟨fun same => by cases same; rfl, fun same => by cases same; rfl⟩

-- A method, and then the relationships that it is granted.
def methodThenGrants (method : WriteStep) (sender : String) (did : Value) (methodId : String) (rels : List Purpose)
    (v : Validity) : List WriteStep :=
  method :: rels.map fun r => WriteStep.relationship sender did methodId r v.notBefore v.notAfter

theorem grants_length (method : WriteStep) (sender : String) (did : Value) (methodId : String) (rels : List Purpose)
    (v : Validity) : (methodThenGrants method sender did methodId rels v).length = 1 + rels.length := by
  rw [methodThenGrants, List.length_cons, List.length_map, Nat.add_comm]

theorem grants_concern {method step : WriteStep} {sender : String} {did : Value} {methodId : String} {rels : List Purpose}
    {v : Validity} (concerns : method.Concerns sender did methodId)
    (among : step ∈ methodThenGrants method sender did methodId rels v) : step.Concerns sender did methodId := by
  cases List.mem_cons.mp among with
  | inl first => exact first ▸ concerns
  | inr later =>
      obtain ⟨r, _, rfl⟩ := List.mem_map.mp later
      exact WriteStep.relationship_concerns sender did methodId r v.notBefore v.notAfter

theorem add_key_steps (did : Value) {controller key : KeyDescriptor} {sender methodId text : String} (rels : List Purpose)
    (v : Validity) (address : controller.address = .ok sender) (method : key.methodId = .ok methodId)
    (stored : key.registryText = .ok text) :
    ∃ step, step.method = .addVerificationMethod ∧ step.Concerns sender did methodId ∧ step.member "name" = .null ∧
      addKeySteps did controller key rels v = .ok (methodThenGrants step sender did methodId rels v) := by
  obtain ⟨step, added, named, concerns, nameless⟩ := WriteStep.add_method_of_parts did address method stored
  have granted : (fun r => WriteStep.addRelationship did controller key r v.notBefore v.notAfter) =
      fun r => pure (WriteStep.relationship sender did methodId r v.notBefore v.notAfter) := by
    funext r
    exact WriteStep.add_relationship_of_parts did r v.notBefore v.notAfter address method
  refine ⟨step, named, concerns, nameless, ?_⟩
  rw [addKeySteps, added, granted, List.mapM_pure]
  rfl

-- Keys of which both points can be loaded have everything that the steps are made of.
theorem add_key_steps_loaded (did : Value) {controller key : KeyDescriptor} {q r : Point} (rels : List Purpose)
    (v : Validity) (sends : PublicKey.load controller.publicKeyHex .secp256k1 = .ok q)
    (loads : PublicKey.load key.publicKeyHex key.type = .ok r) :
    ∃ sender methodId step, controller.address = .ok sender ∧ key.methodId = .ok methodId ∧
      step.method = .addVerificationMethod ∧ step.Concerns sender did methodId ∧
      addKeySteps did controller key rels v = .ok (methodThenGrants step sender did methodId rels v) := by
  obtain ⟨sender, address⟩ := KeyDescriptor.address_total sends
  obtain ⟨methodId, method⟩ := KeyDescriptor.method_id_total loads
  obtain ⟨text, stored⟩ := KeyDescriptor.registry_text_total loads
  obtain ⟨step, named, concerns, _, built⟩ := add_key_steps did rels v address method stored
  exact ⟨sender, methodId, step, address, method, named, concerns, built⟩

theorem add_key_built_iff (did : Value) (controller key : KeyDescriptor) (rels : List Purpose) (v : Validity) :
    (∃ steps, addKeySteps did controller key rels v = .ok steps) ↔
      (∃ q, PublicKey.load controller.publicKeyHex .secp256k1 = .ok q) ∧
        ∃ r, PublicKey.load key.publicKeyHex key.type = .ok r := by
  constructor
  · rintro ⟨steps, built⟩
    by_contra unloaded
    obtain ⟨e, unbuilt⟩ := WriteStep.add_method_unloaded did unloaded
    rw [addKeySteps, unbuilt] at built
    cases built
  · rintro ⟨⟨q, sends⟩, r, loads⟩
    obtain ⟨_, _, _, _, _, _, _, built⟩ := add_key_steps_loaded did rels v sends loads
    exact ⟨_, built⟩

theorem add_key_built {did : Value} {controller key : KeyDescriptor} {rels : List Purpose} {v : Validity}
    {steps : List WriteStep} (built : addKeySteps did controller key rels v = .ok steps) :
    ∃ sender methodId step, controller.address = .ok sender ∧ key.methodId = .ok methodId ∧
      step.method = .addVerificationMethod ∧ step.Concerns sender did methodId ∧
      steps = methodThenGrants step sender did methodId rels v := by
  obtain ⟨⟨q, sends⟩, r, loads⟩ := (add_key_built_iff did controller key rels v).mp ⟨steps, built⟩
  obtain ⟨sender, methodId, step, address, method, named, concerns, run⟩ := add_key_steps_loaded did rels v sends loads
  rw [run] at built
  cases built
  exact ⟨sender, methodId, step, address, method, named, concerns, rfl⟩

section Requests

variable (reg : EbsiRegistrar) (p : Partners τ) (identifier : Identifier) (key : KeyDescriptor) (options : Value)
  (d : Desk τ)

-- The checks that look at nothing but the options and the identifier.
structure Checked (identifier : Identifier) (options : Value) (o : Record) (rels : List Purpose)
    (controller : KeyDescriptor) : Prop where
  options : optionsOf options = .ok o
  named : relationshipsOf (o.get "vm_relationships") = .ok rels
  bearer : (o.get "bearer_token").truthy = true
  found : identifier.controllerKey = .ok controller

theorem add_key_checked {o : Record} {rels : List Purpose} {controller : KeyDescriptor}
    (checked : Checked identifier options o rels controller) :
    reg.addKey p identifier key options d =
      (do let v ← Act.ofExcept (Validity.ofOptions o p.clock)
          let receipts ← reg.write p controller.kid o (addKeySteps identifier.did controller key rels v)
          let after ← appendKey identifier key
          return (receipts, after) : Act τ (List Value × Identifier)) d := by
  rw [addKey, checked.options, Act.of_except_bind_ok, checked.named, Act.of_except_bind_ok, checked.bearer, Bool.not_true,
    if_neg Bool.false_ne_true, checked.found]
  rfl

theorem add_key_unchecked (unchecked : ¬ ∃ o rels controller, Checked identifier options o rels controller) :
    ∃ e, reg.addKey p identifier key options d = ⟨.error e, [], d⟩ := by
  cases given : optionsOf options with
  | error e =>
      rw [addKey, given, Act.of_except_bind_error]
      exact ⟨e, rfl⟩
  | ok o =>
      cases named : relationshipsOf (o.get "vm_relationships") with
      | error e =>
          rw [addKey, given, Act.of_except_bind_ok, named, Act.of_except_bind_error]
          exact ⟨e, rfl⟩
      | ok rels =>
          rw [addKey, given, Act.of_except_bind_ok, named, Act.of_except_bind_ok]
          cases bearer : (o.get "bearer_token").truthy with
          | false => exact ⟨_, rfl⟩
          | true =>
              cases found : identifier.controllerKey with
              | error e => exact ⟨e, rfl⟩
              | ok controller => exact absurd ⟨o, rels, controller, given, named, bearer, found⟩ unchecked

theorem add_key_refused (refused : ¬ ∃ o purposes controller, Admitted identifier key options o purposes controller) :
    ∃ e, reg.addKey p identifier key options d = ⟨.error e, [], d⟩ := by
  by_cases checks : ∃ o rels controller, Checked identifier options o rels controller
  · obtain ⟨o, rels, controller, checked⟩ := checks
    rw [add_key_checked reg p identifier key options d checked]
    cases Validity.ofOptions o p.clock with
    | error e => exact ⟨e, rfl⟩
    | ok v =>
        -- What is left to refuse is a key that does not load.
        obtain ⟨purposes, requested, _⟩ := (relationships_of_names _ _).mp checked.named
        have unloaded : ¬ ((∃ q, PublicKey.load controller.publicKeyHex .secp256k1 = .ok q) ∧
            ∃ q, PublicKey.load key.publicKeyHex key.type = .ok q) := fun loaded =>
          refused ⟨o, purposes, controller, checked.options, requested, checked.bearer,
            controller_key_found.mp checked.found, loaded.1, loaded.2⟩
        obtain ⟨e, unbuilt⟩ := WriteStep.add_method_unloaded identifier.did unloaded
        rw [Act.of_except_bind_ok, addKeySteps, unbuilt]
        exact ⟨e, rfl⟩
  · exact add_key_unchecked reg p identifier key options d checks

end Requests

-- A service is added after fewer checks.
structure ServiceChecked (identifier : Identifier) (options : Value) (o : Record) (controller : KeyDescriptor) : Prop where
  options : optionsOf options = .ok o
  bearer : (o.get "bearer_token").truthy = true
  found : identifier.controllerKey = .ok controller

section Services

variable (reg : EbsiRegistrar) (p : Partners τ) (identifier : Identifier) (service : Service) (options : Value) (d : Desk τ)

theorem add_service_checked {o : Record} {controller : KeyDescriptor}
    (checked : ServiceChecked identifier options o controller) :
    reg.addService p identifier service options d =
      (do let receipts ← reg.write p controller.kid o
            ((WriteStep.addService identifier.did controller service).map fun step => [step])
          let after ← appendService identifier service
          return (receipts.headD .null, after) : Act τ (Value × Identifier)) d := by
  rw [addService, checked.options, Act.of_except_bind_ok, checked.bearer, Bool.not_true, if_neg Bool.false_ne_true,
    checked.found]
  rfl

theorem add_service_unchecked (unchecked : ¬ ∃ o controller, ServiceChecked identifier options o controller) :
    ∃ e, reg.addService p identifier service options d = ⟨.error e, [], d⟩ := by
  cases given : optionsOf options with
  | error e =>
      rw [addService, given, Act.of_except_bind_error]
      exact ⟨e, rfl⟩
  | ok o =>
      rw [addService, given, Act.of_except_bind_ok]
      cases bearer : (o.get "bearer_token").truthy with
      | false => exact ⟨_, rfl⟩
      | true =>
          cases found : identifier.controllerKey with
          | error e => exact ⟨e, rfl⟩
          | ok controller => exact absurd ⟨o, controller, given, bearer, found⟩ unchecked

end Services

def buildOrder (rels : List Purpose) : List (Value × Value) :=
  (.text "addVerificationMethod", .null) ::
    rels.map fun r => (.text "addVerificationMethodRelationship", .text r.name)

-- An admitted request as it went. Calls are seen by their method and by the relationship that they name.
structure Adding (reg : EbsiRegistrar) (p : Partners τ) (identifier : Identifier) (key : KeyDescriptor) (o : Record)
    (d : Desk τ) (rels : List Purpose) (controller : KeyDescriptor) (contacts : List Contact)
    (ended : Ended τ (List Value × Identifier)) : Prop where
  played : Plays p.transport p.signer { d with random := ended.desk.random } contacts ended.desk
  requested : ended.trace.requests = contacts.map Contact.request
  order : (Contact.calls contacts).map (fun c => (c.method, c.member "name")) <+:
    (buildOrder rels).flatMap fun build => [build, (.text "sendSignedTransaction", .null)]
  built : ∃ sender methodId, controller.address = .ok sender ∧ key.methodId = .ok methodId ∧
    ∀ c ∈ Contact.calls contacts, c.method ≠ .text "sendSignedTransaction" →
      c.member "from" = .text sender ∧ c.member "did" = identifier.did ∧ c.member "vMethodId" = .text methodId
  signer : ∀ signature ∈ Contact.signatures contacts, signature.1 = controller.kid
  begins : contacts = [] → (∃ e, Validity.ofOptions o p.clock = .error e) ∨ Unready reg o d
  stops : ∀ contact ∈ contacts.dropLast, contact.succeeds = true
  finishes : contacts ≠ [] → (∀ contact ∈ contacts, contact.succeeds = true) →
    ∃ receipts after, ended.result = .ok (receipts, after)
  returns : (∃ receipts after, ended.result = .ok (receipts, after)) ↔
    (Contact.calls contacts).length = 2 * (1 + rels.length) ∧ (Contact.signatures contacts).length = 1 + rels.length ∧
      ∀ contact ∈ contacts, contact.succeeds = true
  appended : ∀ receipts after, ended.result = .ok (receipts, after) → receipts.length = 1 + rels.length ∧
    after = { identifier with keys := identifier.keys ++ [key] } ∧ ended.trace.appliedTo identifier = after
  kept : ∀ e, ended.result = .error e → ended.trace.appliedTo identifier = identifier

section Admissions

variable {reg : EbsiRegistrar} {p : Partners τ} {identifier : Identifier} {key : KeyDescriptor} {options : Value}
  {o : Record} {d : Desk τ} {purposes : List Purpose} {controller : KeyDescriptor}

def afterwards (identifier : Identifier) (key : KeyDescriptor) : Except Error (List Value) → Identifier
  | .ok _ => identifier.addKey key
  | .error _ => identifier

-- Before its session an admitted request can still fail, and then nothing has been asked for.
theorem adding_not_begun {rels : List Purpose} {e : Error}
    (unready : (∃ e, Validity.ofOptions o p.clock = .error e) ∨ Unready reg o d)
    (built : ∃ sender methodId, controller.address = .ok sender ∧ key.methodId = .ok methodId) :
    Adding reg p identifier key o d rels controller [] ⟨.error e, [], d⟩ := by
  obtain ⟨sender, methodId, address, method⟩ := built
  refine ⟨rfl, rfl, List.nil_prefix, ⟨sender, methodId, address, method, nofun⟩, nofun, fun _ => unready, nofun,
    fun begun => absurd rfl begun, ?_, nofun, fun _ _ => rfl⟩
  constructor
  · rintro ⟨receipts, after, returned⟩
    cases returned
  · rintro ⟨none, _⟩
    change 0 = 2 * (1 + rels.length) at none
    omega

theorem append_key_after {x : Act τ (List Value)} (spares : x.Spares) (identifier : Identifier) (key : KeyDescriptor)
    (d : Desk τ) :
    let ended := (do let receipts ← x; let after ← appendKey identifier key; return (receipts, after) :
      Act τ (List Value × Identifier)) d
    ended.desk = (x d).desk ∧ ended.trace.requests = (x d).trace.requests ∧
      ended.result = (x d).result.map (·, identifier.addKey key) ∧
      ended.trace.appliedTo identifier = afterwards identifier key (x d).result := by
  intro ended
  obtain ⟨ends, traced, last⟩ := Act.noted_run x (.addedKey key) rfl (·, identifier.addKey key) d
  obtain ⟨grown, kept⟩ := Act.noted_applied spares (.addedKey key) (·, identifier.addKey key) d identifier
  refine ⟨last, traced, ends, ?_⟩
  cases outcome : (x d).result with
  | error e => exact kept e (ends.trans (by rw [outcome]; rfl))
  | ok receipts => exact grown _ (ends.trans (by rw [outcome]; rfl))

theorem adding_of_session {rels : List Purpose} {terms : SessionTerms} {id : Value} {step : WriteStep} {v : Validity}
    {sender methodId : String} {contacts : List Contact} {result : Except Error (List Value)}
    {ended : Ended τ (List Value × Identifier)} (kid : terms.kid = controller.kid)
    (address : controller.address = .ok sender) (method : key.methodId = .ok methodId)
    (adds : step.method = .addVerificationMethod) (concerns : step.Concerns sender identifier.did methodId)
    (nameless : step.member "name" = .null)
    (played : Plays p.transport p.signer { d with random := ended.desk.random } contacts ended.desk)
    (requested : ended.trace.requests = contacts.map Contact.request)
    (session : LedgerSession.Session terms id (methodThenGrants step sender identifier.did methodId rels v) contacts result)
    (ends : ended.result = result.map (·, identifier.addKey key))
    (after : ended.trace.appliedTo identifier = afterwards identifier key result) :
    Adding reg p identifier key o d rels controller contacts ended := by
  have count := grants_length step sender identifier.did methodId rels v
  have pairs : (∃ receipts after, ended.result = .ok (receipts, after)) ↔ ∃ taken, result = .ok taken := by
    rw [← LedgerSession.map_returns (·, identifier.addKey key), ← ends, Prod.exists]
  refine ⟨played, requested, ?_, ⟨sender, methodId, address, method, ?_⟩, ?_, ?_,
    LedgerSession.session_succeeds_before_last session, ?_, ?_, ?_, ?_⟩
  · have calls := LedgerSession.session_calls_prefix (fun c => (c.method, c.member "name"))
      (.text "sendSignedTransaction", .null) (fun _ _ => rfl) session
    simp only [WriteStep.member_build] at calls
    rw [methodThenGrants, List.flatMap_cons, List.flatMap_map, nameless] at calls
    rw [buildOrder, List.flatMap_cons, List.flatMap_map]
    simp only [LedgerSession.buildCall, adds] at calls
    exact calls
  · intro c member building
    obtain ⟨other, among, rfl⟩ := LedgerSession.session_builds session member building
    have same := grants_concern concerns among
    simp only [WriteStep.member_build]
    exact ⟨same.sender, same.did, same.methodId⟩
  · intro signature member
    exact (LedgerSession.session_signatures session member).trans kid
  · intro empty
    exact absurd empty (LedgerSession.session_begins session)
  · intro _ succeeded
    exact pairs.mpr (LedgerSession.session_finishes session succeeded)
  · rw [pairs, ← count]
    exact LedgerSession.session_returns_iff session
  · intro receipts final returned
    cases result with
    | error e =>
        rw [ends] at returned
        cases returned
    | ok taken =>
        rw [ends] at returned
        cases returned
        obtain ⟨works, many, _, rfl⟩ := LedgerSession.session_receipts session
        refine ⟨?_, rfl, after⟩
        rw [List.length_map, many, count]
  · intro e raised
    cases result with
    | error _ => exact after
    | ok taken =>
        rw [ends] at raised
        cases raised

theorem add_key_adding (reg : EbsiRegistrar) (p : Partners τ) (d : Desk τ)
    (admitted : Admitted identifier key options o purposes controller) :
    let ended := reg.addKey p identifier key options d
    ∃ contacts, Adding reg p identifier key o d purposes.eraseDups controller contacts ended := by
  intro ended
  obtain ⟨q, sends⟩ := admitted.sends
  obtain ⟨other, loads⟩ := admitted.loads
  obtain ⟨sender, address⟩ := KeyDescriptor.address_total sends
  obtain ⟨methodId, method⟩ := KeyDescriptor.method_id_total loads
  obtain ⟨text, stored⟩ := KeyDescriptor.registry_text_total loads
  have named := (relationships_of_names _ _).mpr ⟨purposes, admitted.named, rfl⟩
  have checked : ended = _ := add_key_checked reg p identifier key options d
    ⟨admitted.options, named, admitted.bearer, controller_key_found.mpr admitted.found⟩
  cases interval : Validity.ofOptions o p.clock with
  | error e =>
      have run : ended = ⟨.error e, [], d⟩ := by rw [checked, interval, Act.of_except_bind_error]
      rw [run]
      exact ⟨[], adding_not_begun (.inl ⟨e, interval⟩) ⟨sender, methodId, address, method⟩⟩
  | ok v =>
      obtain ⟨step, adds, concerns, nameless, built⟩ :=
        add_key_steps identifier.did purposes.eraseDups v address method stored
      rw [interval, Act.of_except_bind_ok, built] at checked
      obtain ⟨last, traced, ends, after⟩ := append_key_after
        (spares_write reg p controller.kid o (.ok (methodThenGrants step sender identifier.did methodId
          purposes.eraseDups v))) identifier key d
      rw [← checked] at last traced ends after
      cases write_cases reg p controller.kid o (methodThenGrants step sender identifier.did methodId
          purposes.eraseDups v) d with
      | inl unwritten =>
          obtain ⟨e, run, unready⟩ := unwritten
          have failed : ended = _ := checked.trans (Act.bind_of_error (congrArg Ended.result run))
          rw [run] at failed
          rw [failed]
          exact ⟨[], adding_not_begun (.inr unready) ⟨sender, methodId, address, method⟩⟩
      | inr written =>
          obtain ⟨terms, id, contacts, kid, played, requested, session⟩ := written
          rw [← last] at played
          exact ⟨contacts, adding_of_session kid address method adds concerns nameless played
            (traced.trans requested) session ends after⟩

end Admissions

-- A request is refused before anything is asked for, or it is worked off and the key comes last of all.
theorem add_key_all_or_nothing (reg : EbsiRegistrar) (p : Partners τ) (identifier : Identifier) (key : KeyDescriptor)
    (options : Value) (d : Desk τ) :
    let ended := reg.addKey p identifier key options d
    ((¬ ∃ o purposes controller, Admitted identifier key options o purposes controller) →
      (∃ e, ended.result = .error e) ∧ ended.trace.requests = [] ∧ ended.trace.appliedTo identifier = identifier) ∧
    ∀ o purposes controller, Admitted identifier key options o purposes controller →
      ∃ contacts, Adding reg p identifier key o d purposes.eraseDups controller contacts ended := by
  intro ended
  constructor
  · intro refused
    obtain ⟨e, run⟩ := add_key_refused reg p identifier key options d refused
    have same : ended = _ := run
    rw [same]
    exact ⟨⟨e, rfl⟩, rfl, rfl⟩
  · intro o purposes controller admitted
    exact add_key_adding reg p d admitted

def baseKey (kid : String) (type : KeyType) : KeyDescriptor :=
  ⟨.text kid, type, .text (Hex.encode (Sec1.uncompressed (basePoint type))), .null, PurposeSet.defaultFor type, .null⟩

-- A relationship that is named twice is registered once, by a registry that takes every call.
theorem add_key_all_or_nothing_twice_named :
    let controller := baseKey "k1" .secp256k1
    let key := baseKey "k2" .secp256r1
    let identifier : Identifier := ⟨.text "did:ebsi:z1", .text "k1", [controller], [], .null, .null⟩
    let o : Record := [("bearer_token", .text "token"), ("not_before", .int 1),
      ("vm_relationships", .list [.text "authentication", .text "assertionMethod", .text "authentication"])]
    let reg : EbsiRegistrar := ⟨.null, []⟩
    let p : Partners Unit := ⟨LedgerSession.accepting, LedgerSession.ready, .int 0⟩
    let d : Desk Unit := ⟨⟨[], [.int 42]⟩, KeyManager.empty, ()⟩
    let ended := reg.addKey p identifier key (.record o) d
    Admitted identifier key (.record o) o [.authentication, .assertionMethod, .authentication] controller ∧
      (∃ contacts, Adding reg p identifier key o d [.authentication, .assertionMethod] controller contacts ended) ∧
      ∃ receipts, ended.result = .ok (receipts, { identifier with keys := [controller, key] }) ∧ receipts.length = 3 := by
  intro controller key identifier o reg p d ended
  have admitted : Admitted identifier key (.record o) o [.authentication, .assertionMethod, .authentication] controller :=
    ⟨rfl, ⟨rfl, List.cons_ne_nil _ _⟩, rfl, rfl, ⟨_, load_uncompressed (base_point_holds .secp256k1)⟩,
      ⟨_, load_uncompressed (base_point_holds .secp256r1)⟩⟩
  obtain ⟨contacts, adding⟩ := (add_key_all_or_nothing reg p identifier key (.record o) d).2 o _ controller admitted
  have begun : contacts ≠ [] := by
    intro empty
    rcases adding.begins empty with ⟨e, unset⟩ | unready
    · cases unset
    · cases unready with
      | address e failed => cases failed
      | rpcIds _ exhausted => cases exhausted
  obtain ⟨receipts, after, returned⟩ := adding.finishes begun (LedgerSession.accepted_succeeds adding.played)
  obtain ⟨count, rfl, _⟩ := adding.appended receipts after returned
  exact ⟨admitted, ⟨contacts, adding⟩, receipts, returned, count⟩

end EbsiRegistrar
end EbsiDid
