import EbsiDid.Proofs.Curve.BasePoint
import EbsiDid.Proofs.Curve.Decoding
import EbsiDid.Proofs.Encoding.Hex
import EbsiDid.Proofs.Registrar.Writing
import EbsiDid.Proofs.Wallet.KeyManager

set_option autoImplicit false

/-!
A creation up to its first contact with the registry: options are read, the id and the private keys are
settled, and both keys are imported. Only random material is used up before the imports.
-/
namespace EbsiDid

namespace Act

variable {τ α β : Type}

theorem bind_ok_inv {x : Act τ α} {f : α → Act τ β} {d : Desk τ} {b : β} (ends : ((x >>= f) d).result = .ok b) :
    ∃ a, (x d).result = .ok a ∧ (f a (x d).desk).result = .ok b := by
  cases outcome : (x d).result with
  | error e =>
      rw [bind_of_error outcome] at ends
      cases ends
  | ok a =>
      rw [bind_of_ok outcome] at ends
      exact ⟨a, rfl, ends⟩

theorem bind_error_inv {x : Act τ α} {f : α → Act τ β} {d : Desk τ} {e : Error} (ends : ((x >>= f) d).result = .error e) :
    (x d).result = .error e ∨ ∃ a, (x d).result = .ok a ∧ (f a (x d).desk).result = .error e := by
  cases outcome : (x d).result with
  | error cause =>
      rw [bind_of_error outcome] at ends
      cases ends
      exact .inl rfl
  | ok a =>
      rw [bind_of_ok outcome] at ends
      exact .inr ⟨a, rfl, ends⟩

-- An action that leaves no trace, and takes from nothing but the random material.
def Draws (x : Act τ α) : Prop := ∀ d, (x d).trace = [] ∧ (x d).desk = { d with random := (x d).desk.random }

theorem draws_pure (a : α) : Draws (pure a : Act τ α) := fun _ => ⟨rfl, rfl⟩

theorem draws_of_except (r : Except Error α) : Draws (ofExcept r : Act τ α) := fun _ => ⟨rfl, rfl⟩

theorem draws_draw (f : RandomStream → Except Error α × RandomStream) : Draws (draw f : Act τ α) := fun _ => ⟨rfl, rfl⟩

theorem draws_bind {x : Act τ α} {f : α → Act τ β} (first : Draws x) (rest : ∀ a, Draws (f a)) : Draws (x >>= f) := by
  intro d
  obtain ⟨silent, kept⟩ := first d
  cases outcome : (x d).result with
  | error e =>
      rw [bind_of_error outcome]
      exact ⟨silent, kept⟩
  | ok a =>
      obtain ⟨silentToo, keptToo⟩ := rest a (x d).desk
      rw [bind_of_ok outcome]
      refine ⟨?_, ?_⟩
      · rw [silent, silentToo]
        rfl
      · rw [keptToo, kept]

end Act

namespace EbsiRegistrar

variable {τ : Type}

theorem choose_id_draws (options : Record) (spec : DidSpec) : (chooseId options spec : Act τ String).Draws := by
  unfold chooseId
  split
  · exact Act.draws_pure _
  · exact Act.draws_draw _

theorem importable_key_draws (keyOptions : Value) (type : KeyType) (kms length : Value) (isController : Bool) :
    (importableKey keyOptions type kms length isController : Act τ ImportableKey).Draws := by
  refine Act.draws_bind (Act.draws_of_except _) fun options => ?_
  refine Act.draws_bind (Act.draws_of_except _) fun type => ?_
  refine Act.draws_bind (Act.draws_of_except _) fun supplied => ?_
  refine Act.draws_bind (Act.draws_draw _) fun digits => ?_
  exact Act.draws_bind (Act.draws_of_except _) fun purposes => Act.draws_pure _

theorem plan_draws (reg : EbsiRegistrar) (kms : Value) (choice : SpecChoice) (options : Record) :
    (reg.plan kms choice options : Act τ Plan).Draws := by
  refine Act.draws_bind (Act.draws_of_except _) fun spec => ?_
  refine Act.draws_bind (choose_id_draws options spec) fun id => ?_
  refine Act.draws_bind (importable_key_draws _ _ _ _ _) fun controller => ?_
  exact Act.draws_bind (importable_key_draws _ _ _ _ _) fun second => Act.draws_pure _

-- What every creation has passed that goes on to its id.
theorem spec_taken {kms : Value} {choice : SpecChoice} {o : Record} {spec : DidSpec} (specified : specFor kms choice o = .ok spec) :
    ¬ (executes o = true ∧ (o.get "bearer_token").truthy = false) ∧ (specOf choice o).any DidSpec.key.alike = false ∧
      kms.truthy = true ∧ specOf choice o = some spec := by
  unfold specFor at specified
  split at specified
  · cases specified
  · rename_i authorized
    split at specified
    · cases specified
    · rename_i legal
      split at specified
      · cases specified
      · rename_i managed
        split at specified
        · rename_i described
          cases specified
          rw [Bool.and_eq_true, Bool.not_eq_true'] at authorized
          rw [Bool.not_eq_true', Bool.not_eq_false] at managed
          exact ⟨authorized, Bool.eq_false_iff.mpr legal, managed, described⟩
        · cases specified

theorem plan_of_parts {reg : EbsiRegistrar} {kms : Value} {choice : SpecChoice} {o : Record} {spec : DidSpec} {id : String}
    {controller second : ImportableKey} {d named first last : Desk τ}
    (specified : specFor (kms.orElse reg.defaultKms) choice o = .ok spec) (chosen : chooseId o spec d = ⟨.ok id, [], named⟩)
    (controllerMade : importableKey (o.get "secp256k1_key") .secp256k1 (kms.orElse reg.defaultKms) spec.keyLength true named =
      ⟨.ok controller, [], first⟩)
    (secondMade : importableKey (o.get "secp256r1_key") .secp256r1 (kms.orElse reg.defaultKms) spec.keyLength false first =
      ⟨.ok second, [], last⟩) :
    reg.plan kms choice o d = ⟨.ok ⟨.text (spec.method.display ++ id), controller, second⟩, [], last⟩ := by
  have keys : (do
      let controller ← importableKey (o.get "secp256k1_key") .secp256k1 (kms.orElse reg.defaultKms) spec.keyLength true
      let second ← importableKey (o.get "secp256r1_key") .secp256r1 (kms.orElse reg.defaultKms) spec.keyLength false
      return ⟨.text (spec.method.display ++ id), controller, second⟩ : Act τ Plan) named =
        ⟨.ok ⟨.text (spec.method.display ++ id), controller, second⟩, [], last⟩ := by
    rw [Act.bind_of_run controllerMade, Act.bind_of_run secondMade]
    rfl
  rw [plan, specified, Act.of_except_bind_ok, Act.bind_of_run chosen]
  exact congrArg (fun ended => (⟨ended.result, [] ++ ended.trace, ended.desk⟩ : Ended τ Plan)) keys

-- What the options of one key settle about its material. The private key is not among it.
structure Settled (keyOptions : Value) (isController : Bool) (k : ImportableKey) : Prop where
  options : ∃ o, optionsOf keyOptions = .ok o ∧ k.kid = o.get "kid" ∧
    PurposeSet.assign k.type (o.get "purposes") = .ok k.purposes
  controller : k.isController = .bool isController
  type : isController = true → k.type = .secp256k1

theorem controller_type {options : Record} {usual type : KeyType} (chosen : keyTypeFor options usual true = .ok type) :
    type = .secp256k1 := by
  cases asked : typeAsked options usual with
  | error e =>
      rw [keyTypeFor, asked] at chosen
      cases chosen
  | ok t =>
      rw [keyTypeFor, asked] at chosen
      cases t with
      | secp256k1 =>
          cases chosen
          rfl
      | secp256r1 => cases chosen

theorem importable_key_settled {keyOptions : Value} {type : KeyType} {kms length : Value} {isController : Bool}
    {d : Desk τ} {k : ImportableKey}
    (made : (importableKey keyOptions type kms length isController d).result = .ok k) :
    Settled keyOptions isController k := by
  obtain ⟨o, options, made⟩ := Act.bind_ok_inv made
  obtain ⟨chosen, typed, made⟩ := Act.bind_ok_inv made
  obtain ⟨supplied, _, made⟩ := Act.bind_ok_inv made
  obtain ⟨digits, _, made⟩ := Act.bind_ok_inv made
  obtain ⟨purposes, assigned, made⟩ := Act.bind_ok_inv made
  cases made
  refine ⟨⟨o, options, rfl, assigned⟩, rfl, ?_⟩
  rintro rfl
  exact controller_type typed

theorem supplied_encoded {bytes : Bytes} (nonempty : bytes ≠ []) :
    suppliedKey (.text (Hex.encode bytes)) = .ok (some bytes) := by
  have counts : (Value.text (Hex.encode bytes)).truthy = true := by
    refine decide_eq_true ?_
    intro empty
    exact nonempty (Hex.encode_inj empty)
  rw [suppliedKey, if_pos counts]
  simp only [Hex.strip_encode, Hex.decode_encode]

-- With a private key of the right length in the options, nothing is drawn.
theorem importable_key_supplied {keyOptions : Value} {o : Record} {usual type : KeyType} {length : Value}
    {isController : Bool} {bytes : Bytes} {purposes : PurposeSet} (given : optionsOf keyOptions = .ok o)
    (typed : keyTypeFor o usual isController = .ok type)
    (supplied : suppliedKey (o.get "private_key_hex") = .ok (some bytes))
    (fits : length.alike (.int bytes.length) = true)
    (assigned : PurposeSet.assign type (o.get "purposes") = .ok purposes) (kms : Value) (d : Desk τ) :
    importableKey keyOptions usual kms length isController d =
      ⟨.ok ⟨kms, type, .text (Hex.encode bytes), o.get "kid", purposes, .bool isController⟩, [], d⟩ := by
  have drawn : Act.draw (fun r => r.privateKeyHex length (some bytes)) d = ⟨.ok (Hex.encode bytes), [], d⟩ := by
    simp only [Act.draw, RandomStream.privateKeyHex, if_pos fits]
  rw [importableKey, given, Act.of_except_bind_ok, typed, Act.of_except_bind_ok, supplied, Act.of_except_bind_ok,
    Act.bind_of_run drawn, assigned, Act.of_except_bind_ok]
  rfl

theorem plan_settled {reg : EbsiRegistrar} {kms : Value} {choice : SpecChoice} {o : Record} {d : Desk τ} {plan : Plan}
    (settled : (reg.plan kms choice o d).result = .ok plan) :
    Settled (o.get "secp256k1_key") true plan.controller ∧ Settled (o.get "secp256r1_key") false plan.second := by
  obtain ⟨spec, _, settled⟩ := Act.bind_ok_inv settled
  obtain ⟨id, _, settled⟩ := Act.bind_ok_inv settled
  obtain ⟨controller, first, settled⟩ := Act.bind_ok_inv settled
  obtain ⟨second, last, settled⟩ := Act.bind_ok_inv settled
  cases settled
  exact ⟨importable_key_settled first, importable_key_settled last⟩

-- The options of a creation are read, and what they ask for is settled.
structure Planned (reg : EbsiRegistrar) (kms : Value) (choice : SpecChoice) (options : Value) (d : Desk τ) (o : Record)
    (plan : Plan) : Prop where
  options : optionsOf options = .ok o
  planned : (reg.plan kms choice o d).result = .ok plan

-- The error of options that are not as they should be.
inductive Unplanned (reg : EbsiRegistrar) (kms : Value) (choice : SpecChoice) (options : Value) (d : Desk τ) (e : Error) : Prop where
  | options : optionsOf options = .error e → Unplanned reg kms choice options d e
  | plan (o : Record) : optionsOf options = .ok o → (reg.plan kms choice o d).result = .error e →
      Unplanned reg kms choice options d e

theorem planned_or_not (reg : EbsiRegistrar) (kms : Value) (choice : SpecChoice) (options : Value) (d : Desk τ) :
    (∃ e, Unplanned reg kms choice options d e) ∨ ∃ o plan, Planned reg kms choice options d o plan := by
  cases given : optionsOf options with
  | error e => exact .inl ⟨e, .options given⟩
  | ok o =>
      cases planned : (reg.plan kms choice o d).result with
      | error e => exact .inl ⟨e, .plan o given planned⟩
      | ok plan => exact .inr ⟨o, plan, given, planned⟩

-- The options of a creation are read and its keys derived, so that both can be stored, the controller first.
structure Prepared (reg : EbsiRegistrar) (kms : Value) (choice : SpecChoice) (options : Value) (d : Desk τ) (o : Record)
    (plan : Plan) (controller second : KeyDescriptor) (controllerText secondText : String) : Prop where
  options : optionsOf options = .ok o
  planned : (reg.plan kms choice o d).result = .ok plan
  derivesController : KeyManager.Derives plan.controller controller controllerText
  derivesSecond : KeyManager.Derives plan.second second secondText

theorem import_key_derived {key : ImportableKey} {k : KeyDescriptor} {text : String}
    (derives : KeyManager.Derives key k text) (d : Desk τ) :
    Act.importKey key d = ⟨.ok k, [.imported k, .line (KeyManager.importedLine k)],
      { d with keys := d.keys.store text k }⟩ := by
  simp only [Act.importKey, KeyManager.import_key_derived derives]
  rfl

theorem import_key_refused {key : ImportableKey} {e : Error} (refused : ∀ m : KeyManager, m.importKey key = (.silent (.error e), m))
    (d : Desk τ) : Act.importKey key d = ⟨.error e, [], d⟩ := by
  simp only [Act.importKey, refused]
  rfl

theorem import_key_underived {key : ImportableKey} (underived : ¬ ∃ k text, KeyManager.Derives key k text) :
    ∃ e, ∀ d : Desk τ, Act.importKey key d = ⟨.error e, [], d⟩ := by
  obtain ⟨e, refused⟩ := KeyManager.import_key_underived underived
  exact ⟨e, import_key_refused refused⟩

def created (plan : Plan) (controller second : KeyDescriptor) (nickname : Value) : Identifier where
  did := plan.did
  controllerKeyId := controller.kid
  keys := [controller, second]
  services := []
  nickname := nickname
  provider := .text provider

-- The desk when both keys are stored.
def furnished (d : Desk τ) (controller second : KeyDescriptor) (controllerText secondText : String) : Desk τ :=
  { d with keys := (d.keys.store controllerText controller).store secondText second }

-- What is left to do then, as its result, what is asked of the outside, and the desk at the end.
structure Finished (reg : EbsiRegistrar) (p : Partners τ) (nickname : Value) (o : Record) (plan : Plan)
    (controller second : KeyDescriptor) (ready : Desk τ) (ended : Ended τ Identifier) : Prop where
  unwritten : executes o = false → ended.result = .ok (created plan controller second nickname) ∧
    ended.trace.requests = [] ∧ ended.desk = ready
  written : executes o = true →
    let written := reg.register p o plan.did controller second ready
    ended.result = written.result.map (fun _ => created plan controller second nickname) ∧
      ended.trace.requests = written.trace.requests ∧ ended.desk = written.desk

theorem carry_out_finished (reg : EbsiRegistrar) (p : Partners τ) (nickname : Value) (o : Record) {plan : Plan}
    {controller second : KeyDescriptor} {controllerText secondText : String}
    (derivesController : KeyManager.Derives plan.controller controller controllerText)
    (derivesSecond : KeyManager.Derives plan.second second secondText) (d : Desk τ) :
    Finished reg p nickname o plan controller second (furnished d controller second controllerText secondText)
      (reg.carryOut p nickname o plan d) := by
  have first := import_key_derived derivesController d
  have last : Act.importKey plan.second { d with keys := d.keys.store controllerText controller } =
      ⟨.ok second, _, furnished d controller second controllerText secondText⟩ := import_key_derived derivesSecond _
  generalize running : reg.carryOut p nickname o plan d = ended
  have run : ended = _ := running.symm.trans (Act.bind_of_run first)
  rw [Act.bind_of_run last] at run
  constructor
  · intro offline
    rw [run, offline]
    exact ⟨rfl, rfl, rfl⟩
  · intro online written
    rw [online, if_pos rfl] at run
    cases outcome : written.result with
    | error e =>
        rw [Act.bind_of_error outcome] at run
        rw [run]
        exact ⟨rfl, rfl, rfl⟩
    | ok receipts =>
        rw [Act.bind_of_ok outcome] at run
        rw [run]
        refine ⟨rfl, ?_, rfl⟩
        change Trace.requests (written.trace ++ _) = _
        rw [Trace.requests_append]
        exact List.append_nil _

theorem carry_out_unimported (reg : EbsiRegistrar) (p : Partners τ) (nickname : Value) (o : Record) {plan : Plan} {e : Error}
    {d : Desk τ} (refused : Act.importKey plan.controller d = ⟨.error e, [], d⟩) :
    reg.carryOut p nickname o plan d = ⟨.error e, [], d⟩ := Act.bind_of_failed_run refused

-- A second key that is refused does not take the controller back.
theorem carry_out_half_imported (reg : EbsiRegistrar) (p : Partners τ) (nickname : Value) (o : Record) {plan : Plan}
    {controller : KeyDescriptor} {text : String} {e : Error} {d : Desk τ}
    (derives : KeyManager.Derives plan.controller controller text)
    (refused : ∀ d : Desk τ, Act.importKey plan.second d = ⟨.error e, [], d⟩) :
    reg.carryOut p nickname o plan d = ⟨.error e, [.imported controller, .line (KeyManager.importedLine controller)],
      { d with keys := d.keys.store text controller }⟩ := by
  have run : reg.carryOut p nickname o plan d = _ := Act.bind_of_run (import_key_derived derives d)
  rw [Act.bind_of_failed_run (refused _)] at run
  exact run

theorem carry_out_refused (reg : EbsiRegistrar) (p : Partners τ) (nickname : Value) (o : Record) (plan : Plan) (d : Desk τ)
    (refused : ¬ ∃ controller second controllerText secondText, KeyManager.Derives plan.controller controller controllerText ∧
      KeyManager.Derives plan.second second secondText) :
    let ended := reg.carryOut p nickname o plan d
    (∃ e, ended.result = .error e) ∧ ended.trace.requests = [] := by
  intro ended
  by_cases controllerDerives : ∃ controller text, KeyManager.Derives plan.controller controller text
  · obtain ⟨controller, controllerText, derivesController⟩ := controllerDerives
    by_cases secondDerives : ∃ second text, KeyManager.Derives plan.second second text
    · obtain ⟨second, secondText, derivesSecond⟩ := secondDerives
      exact absurd ⟨controller, second, controllerText, secondText, derivesController, derivesSecond⟩ refused
    · obtain ⟨e, unimported⟩ := import_key_underived secondDerives
      have run : ended = _ := carry_out_half_imported reg p nickname o derivesController unimported
      rw [run]
      exact ⟨⟨e, rfl⟩, rfl⟩
  · obtain ⟨e, unimported⟩ := import_key_underived controllerDerives
    have run : ended = _ := carry_out_unimported reg p nickname o (unimported d)
    rw [run]
    exact ⟨⟨e, rfl⟩, rfl⟩

section Creations

variable (reg : EbsiRegistrar) (p : Partners τ) (kms nickname : Value) (choice : SpecChoice) (options : Value) (d : Desk τ)

theorem create_planned {o : Record} {plan : Plan} (planned : Planned reg kms choice options d o plan) :
    reg.createIdentifier p kms nickname choice options d =
      reg.carryOut p nickname o plan { d with random := (reg.plan kms choice o d).desk.random } := by
  obtain ⟨silent, kept⟩ := plan_draws reg kms choice o d
  rw [createIdentifier, planned.options, Act.of_except_bind_ok, Act.bind_of_ok planned.planned, silent, List.nil_append,
    kept]

theorem create_unplanned {e : Error} (unplanned : Unplanned reg kms choice options d e) :
    ∃ random, reg.createIdentifier p kms nickname choice options d = ⟨.error e, [], { d with random := random }⟩ := by
  cases unplanned with
  | options failed =>
      refine ⟨d.random, ?_⟩
      rw [createIdentifier, failed, Act.of_except_bind_error]
  | plan o given failed =>
      obtain ⟨silent, kept⟩ := plan_draws reg kms choice o d
      refine ⟨(reg.plan kms choice o d).desk.random, ?_⟩
      rw [createIdentifier, given, Act.of_except_bind_ok, Act.bind_of_error failed, silent, kept]

theorem create_refused
    (refused : ¬ ∃ o plan controller second controllerText secondText,
      Prepared reg kms choice options d o plan controller second controllerText secondText) :
    let ended := reg.createIdentifier p kms nickname choice options d
    (∃ e, ended.result = .error e) ∧ ended.trace.requests = [] := by
  intro ended
  obtain ⟨e, unplanned⟩ | ⟨o, plan, planned⟩ := planned_or_not reg kms choice options d
  · obtain ⟨random, run⟩ := create_unplanned reg p kms nickname choice options d unplanned
    have refused : ended = _ := run
    rw [refused]
    exact ⟨⟨e, rfl⟩, rfl⟩
  · have run : ended = _ := create_planned reg p kms nickname choice options d planned
    rw [run]
    refine carry_out_refused reg p nickname o plan _ ?_
    rintro ⟨controller, second, controllerText, secondText, derivesController, derivesSecond⟩
    exact refused ⟨o, plan, controller, second, controllerText, secondText, planned.options, planned.planned,
      derivesController, derivesSecond⟩

theorem create_finished {o : Record} {plan : Plan} {controller second : KeyDescriptor} {controllerText secondText : String}
    (prepared : Prepared reg kms choice options d o plan controller second controllerText secondText) :
    Finished reg p nickname o plan controller second
      (furnished { d with random := (reg.plan kms choice o d).desk.random } controller second controllerText secondText)
      (reg.createIdentifier p kms nickname choice options d) := by
  rw [create_planned reg p kms nickname choice options d ⟨prepared.options, prepared.planned⟩]
  exact carry_out_finished reg p nickname o prepared.derivesController prepared.derivesSecond _

end Creations

/-! ### A creation with both keys given -/

section Chosen

def oneText : String := Hex.encode (Sec1.coordinate 1)

def chosenKey (kid : String) : Value := .record [("private_key_hex", .text oneText), ("kid", .text kid)]

def chosenOptions (kid otherKid : String) (online : Bool) : Record :=
  [("method_specific_id", .text "z1"), ("secp256k1_key", chosenKey kid), ("secp256r1_key", chosenKey otherKid),
   ("execute_ledger_operation", .bool online), ("bearer_token", .text "token"), ("not_before", .int 1)]

def chosenMaterial (kid : String) (type : KeyType) (isController : Bool) : ImportableKey :=
  ⟨.text "local", type, .text oneText, .text kid, PurposeSet.defaultFor type, .bool isController⟩

def chosenPlan (kid otherKid : String) : Plan :=
  ⟨.text "did:ebsi:z1", chosenMaterial kid .secp256k1 true, chosenMaterial otherKid .secp256r1 false⟩

-- With 32 bytes and a kid given for a key, the rest of it is as usual.
theorem supplied_key_made {bytes : Bytes} (whole : bytes.length = 32) (kid : String) (type : KeyType) (isController : Bool)
    (fits : isController = true → type = .secp256k1) (d : Desk τ) :
    importableKey (.record [("private_key_hex", .text (Hex.encode bytes)), ("kid", .text kid)]) type (.text "local")
      (.int 32) isController d = ⟨.ok ⟨.text "local", type, .text (Hex.encode bytes), .text kid, PurposeSet.defaultFor type,
        .bool isController⟩, [], d⟩ := by
  have typed : keyTypeFor [("private_key_hex", .text (Hex.encode bytes)), ("kid", .text kid)] type isController = .ok type := by
    cases isController with
    | false => rfl
    | true =>
        rw [fits rfl]
        rfl
  have nonempty : bytes ≠ [] := by
    rintro rfl
    cases whole
  have sized : (Value.int 32).alike (.int bytes.length) = true := by
    rw [whole]
    rfl
  exact importable_key_supplied rfl typed (supplied_encoded nonempty) sized rfl (.text "local") d

theorem chosen_key_made (kid : String) (type : KeyType) (isController : Bool) (fits : isController = true → type = .secp256k1)
    (d : Desk τ) :
    importableKey (chosenKey kid) type (.text "local") (.int 32) isController d =
      ⟨.ok (chosenMaterial kid type isController), [], d⟩ :=
  supplied_key_made (Sec1.coordinate_length 1) kid type isController fits d

theorem chosen_plan (reg : EbsiRegistrar) (kid otherKid : String) (online : Bool) (d : Desk τ) :
    reg.plan (.text "local") .usual (chosenOptions kid otherKid online) d = ⟨.ok (chosenPlan kid otherKid), [], d⟩ := by
  have specified : specFor ((Value.text "local").orElse reg.defaultKms) .usual (chosenOptions kid otherKid online) = .ok DidSpec.v1 := by
    cases online <;> rfl
  have chosen : chooseId (chosenOptions kid otherKid online) DidSpec.v1 d = ⟨.ok "z1", [], d⟩ := rfl
  exact plan_of_parts specified chosen (chosen_key_made kid .secp256k1 true (fun _ => rfl) d)
    (chosen_key_made otherKid .secp256r1 false nofun d)

def chosenDescriptor (kid : String) (type : KeyType) (isController : Bool) : KeyDescriptor :=
  ⟨.text kid, type, .text (Hex.encode (Sec1.compressed (basePoint type))), .text "local", PurposeSet.defaultFor type,
    .bool isController⟩

theorem chosen_key_derives {kid : String} (named : kid ≠ "") (type : KeyType) (isController : Bool) :
    KeyManager.Derives (chosenMaterial kid type isController) (chosenDescriptor kid type isController) oneText := by
  have strip : Hex.stripMark oneText = oneText := Hex.strip_encode _
  have unit : KeyManager.scalar? (Hex.stripMark oneText) type = some 1 := by
    rw [strip]
    cases type <;> decide +kernel
  have derives := KeyManager.derives_unit named unit (.text "local") (PurposeSet.defaultFor type) (.bool isController)
  rw [strip] at derives
  exact derives

theorem chosen_prepared (reg : EbsiRegistrar) {kid otherKid : String} (named : kid ≠ "") (otherNamed : otherKid ≠ "")
    (online : Bool) (d : Desk τ) :
    Prepared reg (.text "local") .usual (.record (chosenOptions kid otherKid online)) d (chosenOptions kid otherKid online)
      (chosenPlan kid otherKid) (chosenDescriptor kid .secp256k1 true) (chosenDescriptor otherKid .secp256r1 false)
      oneText oneText :=
  ⟨rfl, congrArg Ended.result (chosen_plan reg kid otherKid online d), chosen_key_derives named .secp256k1 true,
    chosen_key_derives otherNamed .secp256r1 false⟩

end Chosen

end EbsiRegistrar
end EbsiDid
