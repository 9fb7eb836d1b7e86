import EbsiDid.Proofs.Ledger.Acceptance
import EbsiDid.Proofs.Registrar.Registration
import EbsiDid.Proofs.Wallet.Material

set_option autoImplicit false

/-!
Objections to what a creation is asked for. They are all raised before the first key is imported: of what comes later,
nothing ends in a validation error but the registry's own transport.
-/
namespace EbsiDid

/-! ### What comes after the imports -/

namespace EbsiRegistrar

variable {τ : Type}

theorem address_error {reg : EbsiRegistrar} {o : Record} {e : Error} (failed : reg.addressOptions o = .error e) :
    e.objects = false := by
  rw [addressOptions] at failed
  cases layer : Registry.layerOf (o.get "api_opts") with
  | ok fields =>
      rw [layer] at failed
      cases failed
  | error cause =>
      rw [layer] at failed
      cases failed
      unfold Registry.layerOf at layer
      split at layer
      · split at layer
        · cases layer
        · cases layer
          rfl
      · cases layer

theorem write_accepts (reg : EbsiRegistrar) {p : Partners τ}
    (accepting : ∀ c world e, (p.transport.call c world).1.result = .error e → e.objects = false) (kid : Value) (o : Record)
    (steps : List WriteStep) : (reg.write p kid o (.ok steps)).Accepts := by
  refine Act.accepts_bind (Act.accepts_of_except nofun) fun steps _ => ?_
  refine Act.accepts_bind (Act.accepts_of_except fun e failed => address_error failed) fun apiOpts _ => ?_
  exact LedgerSession.execute_accepts accepting _ _ steps

theorem interval_error {o : Record} {clock : Value} {e : Error} (failed : Validity.ofOptions o clock = .error e) :
    e.objects = false := by
  have number {kind : Kind} (unread : clock.toInteger = .error kind) : kind.isA .validation = false := by
    unfold Value.toInteger at unread
    repeat' split at unread
    all_goals cases unread
    all_goals rfl
  simp only [Validity.ofOptions] at failed
  split at failed
  · cases failed
  · split at failed
    · cases failed
    · rename_i kind unread
      cases failed
      exact number unread

theorem register_accepts (reg : EbsiRegistrar) {p : Partners τ}
    (accepting : ∀ c world e, (p.transport.call c world).1.result = .error e → e.objects = false) (o : Record) (did : Value)
    {key other : ImportableKey} {controller second : KeyDescriptor} {text secondText : String}
    (derives : KeyManager.Derives key controller text) (derivesSecond : KeyManager.Derives other second secondText)
    (type : key.type = .secp256k1) : (reg.register p o did controller second).Accepts := by
  refine Act.accepts_bind (Act.accepts_of_except fun e failed => interval_error failed) fun v _ => ?_
  obtain ⟨q, loads⟩ := KeyManager.derived_loads derives
  obtain ⟨r, secondLoads⟩ := KeyManager.derived_loads derivesSecond
  have typed : controller.type = .secp256k1 := by
    obtain ⟨_, _, described⟩ := derives.descriptor
    rw [described]
    exact type
  have sends : PublicKey.load controller.publicKeyHex .secp256k1 = .ok q := by
    rw [← typed]
    exact loads
  obtain ⟨_, _, _, _, _, _, _, _, built, _⟩ := creation_steps_loaded did v (o.get "base_document") typed sends secondLoads
  rw [built]
  exact write_accepts reg accepting _ o _

theorem carry_out_accepts (reg : EbsiRegistrar) {p : Partners τ}
    (accepting : ∀ c world e, (p.transport.call c world).1.result = .error e → e.objects = false) (nickname : Value)
    (o : Record) {plan : Plan} (type : plan.controller.type = .secp256k1) : (reg.carryOut p nickname o plan).Accepts := by
  refine Act.accepts_bind (Act.accepts_import_key _) ?_
  rintro controller ⟨_, imported⟩
  obtain ⟨text, derives⟩ := Act.imported_derives imported
  refine Act.accepts_bind (Act.accepts_import_key _) ?_
  rintro second ⟨_, imported⟩
  obtain ⟨secondText, derivesSecond⟩ := Act.imported_derives imported
  cases executes o with
  | false => exact Act.accepts_bind (Act.accepts_log _ _) fun _ _ => Act.accepts_pure _
  | true =>
      refine Act.accepts_bind (register_accepts reg accepting o plan.did derives derivesSecond type) fun _ _ => ?_
      exact Act.accepts_bind (Act.accepts_log _ _) fun _ _ => Act.accepts_pure _

/-! ### What is objected to -/

-- The objections to the options of one key, with what each of them says of the options.
inductive KeyObjection (o : Record) (usual : KeyType) (length : Value) (isController : Bool) : Error → Prop where
  | unsupported {e : Error} : (o.get "type").truthy = true → KeyType.ofValue (o.get "type") = .error e →
      KeyObjection o usual length isController e
  | controller {type : KeyType} : isController = true → typeAsked o usual = .ok type → type ≠ .secp256k1 →
      KeyObjection o usual length isController (.controllerType type)
  | notHex {text : String} : o.get "private_key_hex" = .text text → text ≠ "" → Hex.decode (Hex.stripMark text) = none →
      KeyObjection o usual length isController .privateKeyNotHex
  | length {text : String} {bytes : Bytes} : o.get "private_key_hex" = .text text → text ≠ "" →
      Hex.decode (Hex.stripMark text) = some bytes → length.alike (.int bytes.length) = false →
      KeyObjection o usual length isController (.keyLength bytes.length length)
  | unknown {names : List Value} {e : Error} : (o.get "purposes").truthy = true →
      Purpose.namesIn (o.get "purposes") = .ok names → Purpose.ofValues names = .error e →
      KeyObjection o usual length isController e
  | disallowed {type : KeyType} {s : PurposeSet} {e : Error} : typeAsked o usual = .ok type →
      PurposeSet.ofOptional (o.get "purposes") = .ok s → s.isEmpty = false → PurposeSet.allowed type s = .error e →
      KeyObjection o usual length isController e

-- The objections to the options of a creation.
inductive Objection (reg : EbsiRegistrar) (kms : Value) (choice : SpecChoice) (o : Record) : Error → Prop where
  | bearer : executes o = true → (o.get "bearer_token").truthy = false → Objection reg kms choice o .noBearerToCreate
  | naturalPerson : (specOf choice o).any DidSpec.key.alike = true → Objection reg kms choice o .naturalPerson
  | kms : (kms.orElse reg.defaultKms).truthy = false → Objection reg kms choice o .noKms
  | controllerKey {keyOptions : Record} {spec : DidSpec} {e : Error} : specOf choice o = some spec →
      optionsOf (o.get "secp256k1_key") = .ok keyOptions →
      KeyObjection keyOptions .secp256k1 spec.keyLength true e → Objection reg kms choice o e
  | secondKey {keyOptions : Record} {spec : DidSpec} {e : Error} : specOf choice o = some spec →
      optionsOf (o.get "secp256r1_key") = .ok keyOptions →
      KeyObjection keyOptions .secp256r1 spec.keyLength false e → Objection reg kms choice o e

/-! ### The checks, one by one -/

theorem pair_error {v : Value} {e : Error} (failed : Entries.entryOf v = .error e) : e.objects = false := by
  unfold Entries.entryOf at failed
  split at failed
  · split at failed
    · cases failed
    · cases failed
      rfl
  · cases failed
    rfl
  · cases failed
    rfl

theorem pairs_error {entries : Entries Value} {items : List Value} {e : Error}
    (failed : (Entries.putPairs entries items).1 = .error e) : e.objects = false := by
  induction items generalizing entries with
  | nil => cases failed
  | cons item rest ih =>
      rw [Entries.putPairs] at failed
      split at failed
      · exact ih failed
      · rename_i cause unmade
        cases failed
        exact pair_error unmade

theorem options_error {v : Value} {e : Error} (failed : optionsOf v = .error e) : e.objects = false := by
  have absorbed {cause : Error} (failed : (Entries.absorb [] v).1 = .error cause) : cause.objects = false := by
    unfold Entries.absorb at failed
    split at failed
    · cases failed
    · split at failed
      · exact pairs_error failed
      · cases failed
        rfl
  rw [optionsOf, Entries.ofValue] at failed
  split at failed
  · cases outcome : (Entries.absorb [] v).1 with
    | ok _ =>
        simp only [outcome] at failed
        cases failed
    | error cause =>
        simp only [outcome] at failed
        cases failed
        exact absorbed outcome
  · cases failed

theorem drawn_bytes_error {r : RandomStream} {length : Value} {e : Error} (failed : (r.takeBytes length).1 = .error e) :
    e.objects = false := by
  have granted {cause : Error} (failed : RandomStream.grant r.bytes.length length = .error cause) : cause.objects = false := by
    unfold RandomStream.grant at failed
    repeat' split at failed
    all_goals cases failed
    all_goals rfl
  rw [RandomStream.takeBytes] at failed
  split at failed
  · cases failed
  · rename_i cause refused
    cases failed
    exact granted refused

theorem id_error {r : RandomStream} {spec : DidSpec} {e : Error} (failed : (r.ebsiMethodSpecificId spec).1 = .error e) :
    e.objects = false := by
  have versioned {cause : Error} (failed : versionBytes spec.version = .error cause) : cause.objects = false := by
    unfold versionBytes at failed
    repeat' split at failed
    all_goals cases failed
    all_goals rfl
  have id {cause : Error} (failed : (r.methodSpecificId spec.idLength spec.version).1 = .error cause) :
      cause.objects = false := by
    rw [RandomStream.methodSpecificId] at failed
    split at failed
    · rename_i other refused
      cases failed
      exact versioned refused
    · cases drawn : (r.takeBytes spec.idLength).1 with
      | ok bytes =>
          simp only [drawn] at failed
          cases failed
      | error other =>
          simp only [drawn] at failed
          cases failed
          exact drawn_bytes_error drawn
  rw [RandomStream.ebsiMethodSpecificId] at failed
  cases drawn : (r.methodSpecificId spec.idLength spec.version).1 with
  | ok text =>
      simp only [drawn] at failed
      cases failed
  | error other =>
      simp only [drawn] at failed
      cases failed
      exact id drawn

theorem type_cases {o : Record} {usual type : KeyType} (asked : typeAsked o usual = .ok type) (isController : Bool) :
    keyTypeFor o usual isController =
      if isController = true ∧ type ≠ .secp256k1 then Except.error (Error.controllerType type) else .ok type := by
  rw [keyTypeFor, asked]
  cases isController <;> cases type <;> rfl

theorem type_objection {o : Record} {usual : KeyType} {isController : Bool} {e : Error} (length : Value)
    (failed : keyTypeFor o usual isController = .error e) : KeyObjection o usual length isController e := by
  cases asked : typeAsked o usual with
  | error cause =>
      rw [keyTypeFor, asked] at failed
      cases failed
      rw [typeAsked] at asked
      split at asked
      · rename_i given
        exact .unsupported given asked
      · cases asked
  | ok type =>
      rw [type_cases asked] at failed
      split at failed
      · rename_i refused
        cases failed
        exact .controller refused.1 asked refused.2
      · cases failed

theorem type_taken {o : Record} {usual type : KeyType} {isController : Bool}
    (taken : keyTypeFor o usual isController = .ok type) :
    typeAsked o usual = .ok type ∧ (isController = true → type = .secp256k1) := by
  cases asked : typeAsked o usual with
  | error cause =>
      rw [keyTypeFor, asked] at taken
      cases taken
  | ok other =>
      rw [type_cases asked] at taken
      split at taken
      · cases taken
      · rename_i fits
        cases taken
        exact ⟨rfl, fun controls => Decidable.byContradiction fun other => fits ⟨controls, other⟩⟩

theorem supplied_cases {v : Value} {supplied : Option Bytes} (taken : suppliedKey v = .ok supplied) :
    supplied = none ∨ ∃ text bytes, v = .text text ∧ text ≠ "" ∧ Hex.decode (Hex.stripMark text) = some bytes ∧
      supplied = some bytes := by
  unfold suppliedKey at taken
  split at taken
  · rename_i given
    split at taken
    · rename_i text
      split at taken
      · rename_i bytes decoded
        cases taken
        exact .inr ⟨text, bytes, rfl, of_decide_eq_true given, decoded, rfl⟩
      · cases taken
    · cases taken
  · cases taken
    exact .inl rfl

theorem supplied_text {text : String} (nonempty : text ≠ "") :
    suppliedKey (.text text) =
      match Hex.decode (Hex.stripMark text) with
      | some bytes => .ok (some bytes)
      | none => .error .privateKeyNotHex :=
  if_pos (decide_eq_true nonempty)

theorem supplied_objection {o : Record} {usual : KeyType} {isController : Bool} {e : Error} (length : Value)
    (failed : suppliedKey (o.get "private_key_hex") = .error e) (objects : e.objects = true) :
    KeyObjection o usual length isController e := by
  unfold suppliedKey at failed
  split at failed
  · rename_i given
    split at failed
    · rename_i text spelt
      rw [spelt] at given
      split at failed
      · cases failed
      · rename_i undecoded
        cases failed
        exact .notHex spelt (of_decide_eq_true given) undecoded
    · cases failed
      cases objects
  · cases failed

theorem assigned_objection {o : Record} {usual type : KeyType} {isController : Bool} {e : Error} (length : Value)
    (asked : typeAsked o usual = .ok type) (failed : PurposeSet.assign type (o.get "purposes") = .error e)
    (objects : e.objects = true) : KeyObjection o usual length isController e := by
  obtain refused | ⟨s, requested, nonempty, refused⟩ := PurposeSet.assignment_refused_iff.mp failed
  · obtain ⟨asks, unnamed | ⟨names, named, unknown⟩⟩ := PurposeSet.request_refused_iff.mp refused
    · rw [Purpose.names_error unnamed] at objects
      cases objects
    · exact .unknown asks named unknown
  · exact .disallowed asked requested nonempty refused

-- A key that is objected to is not made, and whatever else keeps it from being made is no objection.
theorem key_objection_of_error {keyOptions : Value} {usual : KeyType} {kms length : Value} {isController : Bool} {d : Desk τ}
    {e : Error} (failed : (importableKey keyOptions usual kms length isController d).result = .error e)
    (objects : e.objects = true) :
    ∃ o, optionsOf keyOptions = .ok o ∧ KeyObjection o usual length isController e := by
  obtain unread | ⟨o, given, failed⟩ := Act.bind_error_inv failed
  · rw [options_error unread] at objects
    cases objects
  refine ⟨o, given, ?_⟩
  obtain untyped | ⟨type, typed, failed⟩ := Act.bind_error_inv failed
  · exact type_objection length untyped
  obtain unsupplied | ⟨supplied, taken, failed⟩ := Act.bind_error_inv failed
  · exact supplied_objection length unsupplied objects
  obtain undrawn | ⟨digits, _, failed⟩ := Act.bind_error_inv failed
  · obtain rfl | ⟨text, bytes, spelt, nonempty, decoded, rfl⟩ := supplied_cases taken
    · change (d.random.privateKeyHex length none).1 = .error e at undrawn
      cases drawn : (d.random.takeBytes length).1 with
      | ok bytes =>
          simp only [RandomStream.privateKeyHex, drawn] at undrawn
          cases undrawn
      | error cause =>
          simp only [RandomStream.privateKeyHex, drawn] at undrawn
          cases undrawn
          rw [drawn_bytes_error drawn] at objects
          cases objects
    · change (d.random.privateKeyHex length (some bytes)).1 = .error e at undrawn
      rw [RandomStream.privateKeyHex] at undrawn
      split at undrawn
      · cases undrawn
      · rename_i misfit
        cases undrawn
        exact .length spelt nonempty decoded (Bool.eq_false_iff.mpr misfit)
  obtain unassigned | ⟨purposes, _, failed⟩ := Act.bind_error_inv failed
  · exact assigned_objection length (type_taken typed).1 unassigned objects
  · cases failed

theorem key_unobjected {keyOptions : Value} {usual : KeyType} {kms length : Value} {isController : Bool} {d : Desk τ}
    {k : ImportableKey} (made : (importableKey keyOptions usual kms length isController d).result = .ok k) {o : Record}
    (given : optionsOf keyOptions = .ok o) {e : Error} : ¬ KeyObjection o usual length isController e := by
  obtain ⟨other, read, made⟩ := Act.bind_ok_inv made
  have same : other = o := Except.ok.inj (read.symm.trans given)
  subst same
  obtain ⟨type, typed, made⟩ := Act.bind_ok_inv made
  obtain ⟨supplied, taken, made⟩ := Act.bind_ok_inv made
  obtain ⟨digits, drawn, made⟩ := Act.bind_ok_inv made
  obtain ⟨purposes, assigned, made⟩ := Act.bind_ok_inv made
  obtain ⟨asked, controls⟩ := type_taken typed
  change suppliedKey (other.get "private_key_hex") = .ok supplied at taken
  change PurposeSet.assign type (other.get "purposes") = .ok purposes at assigned
  intro objection
  cases objection with
  | unsupported asks unknown =>
      rw [typeAsked, if_pos asks, unknown] at asked
      cases asked
  | controller isController askedOther wrong =>
      cases asked.symm.trans askedOther
      exact wrong (controls isController)
  | notHex spelt nonempty undecoded =>
      rw [spelt, supplied_text nonempty, undecoded] at taken
      cases taken
  | @length text bytes spelt nonempty decoded misfit =>
      rw [spelt, supplied_text nonempty, decoded] at taken
      cases taken
      change (d.random.privateKeyHex length (some bytes)).1 = .ok digits at drawn
      rw [RandomStream.privateKeyHex, misfit] at drawn
      cases drawn
  | unknown asks named unknown =>
      have refused := PurposeSet.request_refused_iff.mpr ⟨asks, .inr ⟨_, named, unknown⟩⟩
      rw [PurposeSet.assignment_refused_iff.mpr (.inl refused)] at assigned
      cases assigned
  | disallowed askedOther requested nonempty refused =>
      cases asked.symm.trans askedOther
      rw [PurposeSet.assignment_refused_iff.mpr (.inr ⟨_, requested, nonempty, refused⟩)] at assigned
      cases assigned

section Plans

variable {reg : EbsiRegistrar} {kms : Value} {choice : SpecChoice} {o : Record} {d : Desk τ}

theorem spec_objection {e : Error} (failed : specFor (kms.orElse reg.defaultKms) choice o = .error e)
    (objects : e.objects = true) : Objection reg kms choice o e := by
  unfold specFor at failed
  split at failed
  · rename_i unauthorized
    cases failed
    rw [Bool.and_eq_true, Bool.not_eq_true'] at unauthorized
    exact .bearer unauthorized.1 unauthorized.2
  · split at failed
    · rename_i natural
      cases failed
      exact .naturalPerson natural
    · split at failed
      · rename_i unmanaged
        cases failed
        rw [Bool.not_eq_true'] at unmanaged
        exact .kms unmanaged
      · split at failed
        · cases failed
        · cases failed
          cases objects

theorem plan_objection {e : Error} (failed : (reg.plan kms choice o d).result = .error e) (objects : e.objects = true) :
    Objection reg kms choice o e := by
  obtain unspecified | ⟨spec, specified, failed⟩ := Act.bind_error_inv failed
  · exact spec_objection unspecified objects
  obtain ⟨_, _, _, described⟩ := spec_taken specified
  obtain unnamed | ⟨id, _, failed⟩ := Act.bind_error_inv failed
  · rw [chooseId] at unnamed
    split at unnamed
    · cases unnamed
    · rw [id_error unnamed] at objects
      cases objects
  obtain unmade | ⟨controller, _, failed⟩ := Act.bind_error_inv failed
  · obtain ⟨keyOptions, given, objection⟩ := key_objection_of_error unmade objects
    exact .controllerKey described given objection
  obtain unmade | ⟨second, _, failed⟩ := Act.bind_error_inv failed
  · obtain ⟨keyOptions, given, objection⟩ := key_objection_of_error unmade objects
    exact .secondKey described given objection
  · cases failed

theorem plan_unobjected {plan : Plan} (planned : (reg.plan kms choice o d).result = .ok plan) {e : Error} :
    ¬ Objection reg kms choice o e := by
  obtain ⟨spec, specified, planned⟩ := Act.bind_ok_inv planned
  obtain ⟨id, _, planned⟩ := Act.bind_ok_inv planned
  obtain ⟨controller, controllerMade, planned⟩ := Act.bind_ok_inv planned
  obtain ⟨second, secondMade, _⟩ := Act.bind_ok_inv planned
  obtain ⟨authorized, legal, managed, described⟩ := spec_taken specified
  intro objection
  cases objection with
  | bearer online unauthorized => exact authorized ⟨online, unauthorized⟩
  | naturalPerson natural =>
      rw [legal] at natural
      cases natural
  | kms unmanaged =>
      rw [managed] at unmanaged
      cases unmanaged
  | controllerKey otherwise given objection =>
      cases described.symm.trans otherwise
      exact key_unobjected controllerMade given objection
  | secondKey otherwise given objection =>
      cases described.symm.trans otherwise
      exact key_unobjected secondMade given objection

end Plans

-- No event at all: no key was imported, nothing was called and nothing signed. Only random material may be used up.
structure Untouched (d : Desk τ) (ended : Ended τ Identifier) : Prop where
  silent : ended.trace = []
  keys : ended.desk.keys = d.keys
  outside : ended.desk.outside = d.outside

theorem unplanned_untouched (reg : EbsiRegistrar) (p : Partners τ) (kms nickname : Value) (choice : SpecChoice)
    (options : Value) {d : Desk τ} {e : Error} (unplanned : Unplanned reg kms choice options d e) :
    let ended := reg.createIdentifier p kms nickname choice options d
    ended.result = .error e ∧ Untouched d ended := by
  intro ended
  obtain ⟨random, run⟩ := create_unplanned reg p kms nickname choice options d unplanned
  have run : ended = _ := run
  rw [run]
  exact ⟨rfl, rfl, rfl, rfl⟩

-- Every validation error of a creation is an objection to its options, raised before anything is touched, and every
-- objection to its options keeps it from touching anything.
theorem objections_come_first (reg : EbsiRegistrar) (p : Partners τ) (kms nickname : Value) (choice : SpecChoice)
    (options : Value) (d : Desk τ)
    (accepting : ∀ c world e, (p.transport.call c world).1.result = .error e → e.objects = false) :
    let ended := reg.createIdentifier p kms nickname choice options d
    (∀ e, ended.result = .error e → e.objects = true →
      Untouched d ended ∧ ∃ o, optionsOf options = .ok o ∧ Objection reg kms choice o e) ∧
    ∀ o e, optionsOf options = .ok o → Objection reg kms choice o e →
      Untouched d ended ∧ ∃ cause, ended.result = .error cause := by
  intro ended
  obtain ⟨cause, unplanned⟩ | ⟨o, plan, planned⟩ := planned_or_not reg kms choice options d
  · obtain ⟨failed, untouched⟩ := unplanned_untouched reg p kms nickname choice options unplanned
    refine ⟨?_, fun _ _ _ _ => ⟨untouched, cause, failed⟩⟩
    intro e raised objects
    cases failed.symm.trans raised
    refine ⟨untouched, ?_⟩
    cases unplanned with
    | options unread =>
        rw [options_error unread] at objects
        cases objects
    | plan o given unsettled => exact ⟨o, given, plan_objection unsettled objects⟩
  · have run : ended = _ := create_planned reg p kms nickname choice options d planned
    constructor
    · intro e raised objects
      rw [run] at raised
      have typed := (plan_settled planned.planned).1.type rfl
      rw [carry_out_accepts reg accepting nickname o typed _ e raised] at objects
      cases objects
    · intro other e given objection
      cases planned.options.symm.trans given
      exact absurd objection (plan_unobjected planned.planned)

-- Without a token nothing is asked of a registry, be it within reach or not.
theorem objections_come_first_unauthorized :
    let reg : EbsiRegistrar := ⟨.text "local", []⟩
    let p : Partners Unit := ⟨⟨fun _ world => (.silent (.error (.reported .ledgerTransport "")), world)⟩, .keyManager, .int 0⟩
    let d : Desk Unit := ⟨⟨List.replicate 80 1, []⟩, KeyManager.empty, ()⟩
    let o : Record := [("execute_ledger_operation", .bool true)]
    let ended := reg.createIdentifier p .null .null .usual (.record o) d
    (∀ c world e, (p.transport.call c world).1.result = .error e → e.objects = false) ∧
      Objection reg .null .usual o .noBearerToCreate ∧ ended.result = .error .noBearerToCreate ∧ Untouched d ended := by
  intro reg p d o ended
  have accepting : ∀ c world e, (p.transport.call c world).1.result = .error e → e.objects = false := by
    intro c world e raised
    cases raised
    rfl
  have objection : Objection reg .null .usual o .noBearerToCreate := .bearer rfl rfl
  obtain ⟨untouched, _⟩ := (objections_come_first reg p .null .null .usual (.record o) d accepting).2 o _ rfl objection
  exact ⟨accepting, objection, rfl, untouched⟩

end EbsiRegistrar
end EbsiDid
