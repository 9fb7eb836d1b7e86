import EbsiDid.Proofs.Registrar.Preparation

set_option autoImplicit false

/-!
Where the keys of a new identifier are kept. The second key is imported after the controller, and takes
its place in the key manager when their kids are alike.
-/
namespace EbsiDid.EbsiRegistrar

variable {τ : Type}

theorem write_keys (reg : EbsiRegistrar) (p : Partners τ) (kid : Value) (o : Record)
    (steps : Except Error (List WriteStep)) (d : Desk τ) :
    let after := (reg.write p kid o steps d).desk.keys
    after.keys = d.keys.keys ∧ after.privateKeys = d.keys.privateKeys := by
  cases steps with
  | error e =>
      rw [write_unbuilt]
      exact ⟨rfl, rfl⟩
  | ok steps =>
      obtain ⟨e, run, _⟩ | ⟨terms, id, contacts, _, played, _⟩ := write_cases reg p kid o steps d
      · rw [run]
        exact ⟨rfl, rfl⟩
      · exact (plays_keys played).2

theorem register_keys (reg : EbsiRegistrar) (p : Partners τ) (o : Record) (did : Value) (controller second : KeyDescriptor)
    (d : Desk τ) :
    let after := (reg.register p o did controller second d).desk.keys
    after.keys = d.keys.keys ∧ after.privateKeys = d.keys.privateKeys := by
  cases interval : Validity.ofOptions o p.clock with
  | error e =>
      rw [register, interval, Act.of_except_bind_error]
      exact ⟨rfl, rfl⟩
  | ok v =>
      rw [register, interval, Act.of_except_bind_ok]
      exact write_keys reg p controller.kid o _ d

theorem finished_keys {reg : EbsiRegistrar} {p : Partners τ} {nickname : Value} {o : Record} {plan : Plan}
    {controller second : KeyDescriptor} {ready : Desk τ} {ended : Ended τ Identifier}
    (finished : Finished reg p nickname o plan controller second ready ended) :
    ended.desk.keys.keys = ready.keys.keys ∧ ended.desk.keys.privateKeys = ready.keys.privateKeys := by
  cases online : executes o with
  | false =>
      obtain ⟨_, _, still⟩ := finished.unwritten online
      rw [still]
      exact ⟨rfl, rfl⟩
  | true =>
      obtain ⟨_, _, last⟩ := finished.written online
      rw [last]
      exact register_keys reg p o plan.did controller second ready

theorem finished_created {reg : EbsiRegistrar} {p : Partners τ} {nickname : Value} {o : Record} {plan : Plan}
    {controller second : KeyDescriptor} {ready : Desk τ} {ended : Ended τ Identifier} {i : Identifier}
    (finished : Finished reg p nickname o plan controller second ready ended) (made : ended.result = .ok i) :
    i = created plan controller second nickname := by
  cases online : executes o with
  | false =>
      obtain ⟨ends, _⟩ := finished.unwritten online
      rw [ends] at made
      cases made
      rfl
  | true =>
      obtain ⟨ends, _⟩ := finished.written online
      rw [ends] at made
      generalize (reg.register p o plan.did controller second ready).result = result at made
      cases result with
      | error e => cases made
      | ok receipts =>
          cases made
          rfl

theorem created_prepared {reg : EbsiRegistrar} {p : Partners τ} {kms nickname : Value} {choice : SpecChoice}
    {options : Value} {d : Desk τ} {i : Identifier}
    (made : (reg.createIdentifier p kms nickname choice options d).result = .ok i) :
    ∃ o plan controller second controllerText secondText,
      Prepared reg kms choice options d o plan controller second controllerText secondText ∧
        i = created plan controller second nickname := by
  by_cases prepared : ∃ o plan controller second controllerText secondText,
      Prepared reg kms choice options d o plan controller second controllerText secondText
  · obtain ⟨o, plan, controller, second, controllerText, secondText, prepared⟩ := prepared
    have finished := create_finished reg p kms nickname choice options d prepared
    exact ⟨o, plan, controller, second, controllerText, secondText, prepared, finished_created finished made⟩
  · obtain ⟨⟨e, failed⟩, _⟩ := create_refused reg p kms nickname choice options d prepared
    rw [failed] at made
    cases made

-- The kid of a key is the one that its options give, or else its public key.
def NamedBy (keyOptions : Value) (k : KeyDescriptor) : Prop :=
  ∃ o, optionsOf keyOptions = .ok o ∧ k.kid = (o.get "kid").orElse k.publicKeyHex

theorem derives_named {keyOptions : Value} {isController : Bool} {key : ImportableKey} {k : KeyDescriptor} {text : String}
    (settled : Settled keyOptions isController key) (derives : KeyManager.Derives key k text) : NamedBy keyOptions k := by
  obtain ⟨o, given, kid, _⟩ := settled.options
  obtain ⟨publicKey, _, rfl⟩ := derives.descriptor
  refine ⟨o, given, ?_⟩
  rw [← kid]
  rfl

-- What a key manager has of a new identifier, with the text of the controller's private key.
structure Custody (m : KeyManager) (o : Record) (i : Identifier) (controller second : KeyDescriptor) (text : String) : Prop where
  keys : i.keys = [controller, second]
  controllerKid : i.controllerKeyId = controller.kid
  named : NamedBy (o.get "secp256k1_key") controller ∧ NamedBy (o.get "secp256r1_key") second
  privateKey : ∃ publicKey, KeyManager.publicKeyOf? text .secp256k1 = some publicKey ∧
    controller.publicKeyHex = .text publicKey
  held : (∀ k ∈ i.keys, m.getKey k.kid = .ok k) ↔ controller.kid.alike second.kid = false
  signs : controller.kid.alike second.kid = false → ∀ transaction,
    (m.sign i.controllerKeyId transaction).1 = KeyManager.signWith text transaction
  displaced : controller.kid.alike second.kid = true → m.getKey i.controllerKeyId = .ok second ∧
    (second.type = .secp256r1 → ∀ transaction, (m.sign i.controllerKeyId transaction).1 =
      .error (.signerWrongType i.controllerKeyId.display .secp256r1))

theorem custody_of_stored {m before : KeyManager} {o : Record} {plan : Plan} {controller second : KeyDescriptor}
    {text secondText : String} (nickname : Value)
    (settledController : Settled (o.get "secp256k1_key") true plan.controller)
    (settledSecond : Settled (o.get "secp256r1_key") false plan.second)
    (derivesController : KeyManager.Derives plan.controller controller text)
    (derivesSecond : KeyManager.Derives plan.second second secondText)
    (keys : m.keys = ((before.store text controller).store secondText second).keys)
    (privateKeys : m.privateKeys = ((before.store text controller).store secondText second).privateKeys) :
    Custody m o (created plan controller second nickname) controller second text := by
  have secondHeld : m.Holds second secondText :=
    KeyManager.holds_unchanged (KeyManager.holds_stored derivesSecond.scalar) keys privateKeys
  have swapped : controller.kid.alike second.kid = second.kid.alike controller.kid :=
    Value.alike_comm derivesController.scalar derivesSecond.scalar
  have controllerHeld (apart : controller.kid.alike second.kid = false) : m.Holds controller text := by
    rw [swapped] at apart
    exact KeyManager.holds_unchanged (KeyManager.holds_store_apart
      (KeyManager.holds_stored derivesController.scalar) derivesSecond.scalar apart) keys privateKeys
  have displaced (same : controller.kid.alike second.kid = true) : m.getKey controller.kid = .ok second := by
    rw [swapped] at same
    exact KeyManager.get_key_alike secondHeld derivesController.scalar same
  obtain ⟨publicKey, derived, describedController⟩ := derivesController.descriptor
  obtain ⟨otherPublicKey, _, describedSecond⟩ := derivesSecond.descriptor
  have typed : plan.controller.type = .secp256k1 := settledController.type rfl
  refine ⟨rfl, rfl, ⟨derives_named settledController derivesController, derives_named settledSecond derivesSecond⟩, ?_, ?_,
    ?_, fun same => ⟨displaced same, fun type => ?_⟩⟩
  · rw [typed] at derived
    exact ⟨publicKey, derived, by rw [describedController]; rfl⟩
  · constructor
    · intro all
      cases apart : controller.kid.alike second.kid with
      | false => rfl
      | true =>
          -- The two descriptors differ in what they say about being the controller.
          have found := all controller List.mem_cons_self
          rw [displaced apart] at found
          have flags : second.isController = controller.isController := congrArg KeyDescriptor.isController (Except.ok.inj found)
          rw [describedController, describedSecond] at flags
          have contrary : plan.second.isController = plan.controller.isController := flags
          rw [settledController.controller, settledSecond.controller] at contrary
          cases contrary
    · intro apart k member
      have either : k = controller ∨ k = second := by simpa [created] using member
      rcases either with rfl | rfl
      · exact KeyManager.get_key_held (controllerHeld apart)
      · exact KeyManager.get_key_held secondHeld
  · intro apart transaction
    refine KeyManager.sign_held (controllerHeld apart) ?_ transaction
    rw [describedController]
    exact typed
  · rw [swapped] at same
    exact KeyManager.sign_alike secondHeld derivesController.scalar same type

-- Whichever keys were there before, those of the identifier are all found again if and only if their kids
-- are not alike.
theorem created_keys_held {reg : EbsiRegistrar} {p : Partners τ} {kms nickname : Value} {choice : SpecChoice}
    {options : Value} {d : Desk τ} {i : Identifier}
    (made : (reg.createIdentifier p kms nickname choice options d).result = .ok i) :
    ∃ o controller second text, optionsOf options = .ok o ∧
      Custody (reg.createIdentifier p kms nickname choice options d).desk.keys o i controller second text := by
  by_cases prepared : ∃ o plan controller second controllerText secondText,
      Prepared reg kms choice options d o plan controller second controllerText secondText
  · obtain ⟨o, plan, controller, second, controllerText, secondText, prepared⟩ := prepared
    have finished := create_finished reg p kms nickname choice options d prepared
    obtain ⟨keys, privateKeys⟩ := finished_keys finished
    obtain ⟨settledController, settledSecond⟩ := plan_settled prepared.planned
    refine ⟨o, controller, second, controllerText, prepared.options, ?_⟩
    rw [finished_created finished made]
    exact custody_of_stored nickname settledController settledSecond prepared.derivesController prepared.derivesSecond
      keys privateKeys
  · obtain ⟨⟨e, failed⟩, _⟩ := create_refused reg p kms nickname choice options d prepared
    rw [failed] at made
    cases made

-- Under two kids the identifier is made and both keys are held.
theorem created_keys_held_apart :
    let reg : EbsiRegistrar := ⟨.null, []⟩
    let p : Partners (List Rehearsal.Prepared) := ⟨LedgerSession.scripted, .keyManager, .int 0⟩
    let d : Desk (List Rehearsal.Prepared) := ⟨⟨[], []⟩, KeyManager.empty, []⟩
    let ended := reg.createIdentifier p (.text "local") .null .usual (.record (chosenOptions "k1" "k2" false)) d
    ∃ i, ended.result = .ok i ∧ ∃ o controller second text, optionsOf (.record (chosenOptions "k1" "k2" false)) = .ok o ∧
      Custody ended.desk.keys o i controller second text := by
  intro reg p d ended
  have prepared := chosen_prepared reg (by decide : "k1" ≠ "") (by decide : "k2" ≠ "") false d
  have finished := create_finished reg p (.text "local") .null .usual _ d prepared
  exact ⟨_, (finished.unwritten rfl).1, created_keys_held (finished.unwritten rfl).1⟩

-- Under one kid the controller is gone once the second key is there.
theorem created_controller_displaced :
    let reg : EbsiRegistrar := ⟨.null, []⟩
    let p : Partners (List Rehearsal.Prepared) := ⟨LedgerSession.scripted, .keyManager, .int 0⟩
    let d : Desk (List Rehearsal.Prepared) := ⟨⟨[], []⟩, KeyManager.empty, []⟩
    let ended := reg.createIdentifier p (.text "local") .null .usual (.record (chosenOptions "k" "k" false)) d
    ∃ i, ended.result = .ok i ∧ ¬ ∀ k ∈ i.keys, ended.desk.keys.getKey k.kid = .ok k := by
  intro reg p d ended
  have prepared := chosen_prepared reg (by decide : "k" ≠ "") (by decide : "k" ≠ "") false d
  have finished := create_finished reg p (.text "local") .null .usual _ d prepared
  obtain ⟨keys, privateKeys⟩ := finished_keys finished
  obtain ⟨settledController, settledSecond⟩ := plan_settled prepared.planned
  have custody := custody_of_stored .null settledController settledSecond prepared.derivesController
    prepared.derivesSecond keys privateKeys
  refine ⟨_, (finished.unwritten rfl).1, ?_⟩
  intro all
  have apart := custody.held.mp all
  have same : (Value.text "k").alike (.text "k") = true := rfl
  exact absurd (apart.symm.trans same) Bool.false_ne_true

end EbsiDid.EbsiRegistrar
