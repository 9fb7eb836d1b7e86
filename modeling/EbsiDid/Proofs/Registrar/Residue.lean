import EbsiDid.Proofs.Registrar.Preparation
import EbsiDid.Proofs.Wallet.Material

set_option autoImplicit false

/-!
What a creation leaves in the key manager when it ends in an error before it has called the registry. Both keys are
checked before either is imported, but not for what the import itself refuses, and an import is never undone.
-/
namespace EbsiDid

open KeyManager (Importable)

def Trace.Uncalled (t : Trace) : Prop := ∀ c, Request.call c ∉ t.requests

namespace EbsiRegistrar

variable {τ : Type}

theorem write_uncalled (reg : EbsiRegistrar) (p : Partners τ) (kid : Value) (o : Record)
    (steps : Except Error (List WriteStep)) (d : Desk τ) {e : Error} (failed : (reg.write p kid o steps d).result = .error e)
    (uncalled : (reg.write p kid o steps d).trace.Uncalled) : (reg.write p kid o steps d).desk.keys = d.keys := by
  cases steps with
  | error other =>
      rw [write_unbuilt]
  | ok steps =>
      obtain ⟨other, run, _⟩ | ⟨terms, id, contacts, _, _, requested, session⟩ := write_cases reg p kid o steps d
      · rw [run]
      · obtain ⟨c, answer, more, rfl⟩ := LedgerSession.session_calls_first session failed
        refine absurd ?_ (uncalled c)
        rw [requested]
        exact List.mem_cons_self

theorem register_uncalled (reg : EbsiRegistrar) (p : Partners τ) (o : Record) (did : Value) (controller second : KeyDescriptor)
    (d : Desk τ) {e : Error} (failed : (reg.register p o did controller second d).result = .error e)
    (uncalled : (reg.register p o did controller second d).trace.Uncalled) :
    (reg.register p o did controller second d).desk.keys = d.keys := by
  cases interval : Validity.ofOptions o p.clock with
  | error other =>
      rw [register, interval, Act.of_except_bind_error]
  | ok v =>
      rw [register, interval, Act.of_except_bind_ok] at failed uncalled ⊢
      exact write_uncalled reg p controller.kid o _ d failed uncalled

-- What is left of a plan: nothing if the controller key is refused, the controller if only the second key is refused,
-- and both keys if it is something else that fails.
structure Remains (plan : Plan) (before after : KeyManager) : Prop where
  nothing : ¬ Importable plan.controller → after = before
  controller : Importable plan.controller → ¬ Importable plan.second → ∃ k text, KeyManager.Derives plan.controller k text ∧
    after = before.store text k ∧ after.getKey k.kid = .ok k
  both : Importable plan.controller → Importable plan.second → ∃ k text other otherText,
    KeyManager.Derives plan.controller k text ∧ KeyManager.Derives plan.second other otherText ∧
      after = (before.store text k).store otherText other ∧ after.getKey other.kid = .ok other

theorem stored_found {key : ImportableKey} {k : KeyDescriptor} {text : String} (derives : KeyManager.Derives key k text)
    (m : KeyManager) : (m.store text k).getKey k.kid = .ok k :=
  KeyManager.get_key_held (KeyManager.holds_stored derives.scalar)

theorem finished_uncalled {reg : EbsiRegistrar} {p : Partners τ} {nickname : Value} {o : Record} {plan : Plan}
    {controller second : KeyDescriptor} {ready : Desk τ} {ended : Ended τ Identifier} {e : Error}
    (finished : Finished reg p nickname o plan controller second ready ended) (failed : ended.result = .error e)
    (uncalled : ended.trace.Uncalled) : ended.desk.keys = ready.keys := by
  cases online : executes o with
  | false =>
      rw [(finished.unwritten online).1] at failed
      cases failed
  | true =>
      obtain ⟨ends, requested, desk⟩ := finished.written online
      rw [ends] at failed
      rw [desk]
      cases outcome : (reg.register p o plan.did controller second ready).result with
      | ok receipts =>
          rw [outcome] at failed
          cases failed
      | error cause =>
          refine register_uncalled reg p o plan.did controller second ready outcome ?_
          intro c
          rw [← requested]
          exact uncalled c

theorem carry_out_remains (reg : EbsiRegistrar) (p : Partners τ) (nickname : Value) (o : Record) (plan : Plan) (d : Desk τ)
    {e : Error} (failed : (reg.carryOut p nickname o plan d).result = .error e)
    (uncalled : (reg.carryOut p nickname o plan d).trace.Uncalled) :
    Remains plan d.keys (reg.carryOut p nickname o plan d).desk.keys := by
  by_cases first : Importable plan.controller
  · obtain ⟨k, text, derives⟩ := (KeyManager.derives_iff plan.controller).mpr first
    by_cases last : Importable plan.second
    · obtain ⟨other, otherText, derivesOther⟩ := (KeyManager.derives_iff plan.second).mpr last
      have finished := carry_out_finished reg p nickname o derives derivesOther d
      rw [finished_uncalled finished failed uncalled]
      exact ⟨fun refused => absurd first refused, fun _ refused => absurd last refused, fun _ _ =>
        ⟨k, text, other, otherText, derives, derivesOther, rfl, stored_found derivesOther _⟩⟩
    · obtain ⟨cause, refused⟩ := import_key_underived (τ := τ) fun derived => last ((KeyManager.derives_iff _).mp derived)
      rw [carry_out_half_imported reg p nickname o derives refused]
      exact ⟨fun refused => absurd first refused, fun _ _ => ⟨k, text, derives, rfl, stored_found derives _⟩,
        fun _ taken => absurd taken last⟩
  · obtain ⟨cause, refused⟩ := import_key_underived (τ := τ) fun derived => first ((KeyManager.derives_iff _).mp derived)
    rw [carry_out_unimported reg p nickname o (refused d)]
    exact ⟨fun _ => rfl, fun taken => absurd taken first, fun taken => absurd taken first⟩

-- A creation that is refused before its first call leaves behind what it had imported until then. It leaves the keys as
-- they were if and only if it had come to no import.
theorem refused_creation_remains {reg : EbsiRegistrar} {p : Partners τ} {kms nickname : Value} {choice : SpecChoice}
    {options : Value} {d : Desk τ} {e : Error}
    (failed : (reg.createIdentifier p kms nickname choice options d).result = .error e)
    (uncalled : (reg.createIdentifier p kms nickname choice options d).trace.Uncalled) :
    let after := (reg.createIdentifier p kms nickname choice options d).desk.keys
    ((∃ cause, Unplanned reg kms choice options d cause) ∧ after = d.keys) ∨
      ∃ o plan, Planned reg kms choice options d o plan ∧ Remains plan d.keys after := by
  intro after
  obtain ⟨cause, unplanned⟩ | ⟨o, plan, planned⟩ := planned_or_not reg kms choice options d
  · obtain ⟨random, run⟩ := create_unplanned reg p kms nickname choice options d unplanned
    refine .inl ⟨⟨cause, unplanned⟩, ?_⟩
    change (reg.createIdentifier p kms nickname choice options d).desk.keys = d.keys
    rw [run]
  · have run := create_planned reg p kms nickname choice options d planned
    refine .inr ⟨o, plan, planned, ?_⟩
    change Remains plan d.keys (reg.createIdentifier p kms nickname choice options d).desk.keys
    rw [run] at failed uncalled ⊢
    have remains := carry_out_remains reg p nickname o plan _ failed uncalled
    exact remains

/-! ### A controller key that is left behind -/

def zeroKey : Value := .record [("private_key_hex", .text (Hex.encode (Sec1.coordinate 0))), ("kid", .text "k2")]

def halfOptions : Record :=
  [("method_specific_id", .text "z1"), ("secp256k1_key", chosenKey "k1"), ("secp256r1_key", zeroKey)]

def zeroMaterial : ImportableKey :=
  ⟨.text "local", .secp256r1, .text (Hex.encode (Sec1.coordinate 0)), .text "k2", PurposeSet.defaultFor .secp256r1, .bool false⟩

def halfPlan : Plan := ⟨.text "did:ebsi:z1", chosenMaterial "k1" .secp256k1 true, zeroMaterial⟩

theorem half_planned (reg : EbsiRegistrar) (d : Desk τ) :
    Planned reg (.text "local") .usual (.record halfOptions) d halfOptions halfPlan := by
  have specified : specFor ((Value.text "local").orElse reg.defaultKms) .usual halfOptions = .ok DidSpec.v1 := rfl
  have chosen : chooseId halfOptions DidSpec.v1 d = ⟨.ok "z1", [], d⟩ := rfl
  have planned := plan_of_parts specified chosen (chosen_key_made "k1" .secp256k1 true (fun _ => rfl) d)
    (supplied_key_made (Sec1.coordinate_length 0) "k2" .secp256r1 false nofun d)
  exact ⟨rfl, congrArg Ended.result planned⟩

theorem half_run (reg : EbsiRegistrar) (p : Partners τ) (d : Desk τ) :
    ∃ trace random, reg.createIdentifier p (.text "local") .null .usual (.record halfOptions) d =
      ⟨.error (.privateKeyInvalid .secp256r1), trace,
        ⟨random, d.keys.store oneText (chosenDescriptor "k1" .secp256k1 true), d.outside⟩⟩ ∧ trace.requests = [] := by
  have refused (d : Desk τ) : Act.importKey zeroMaterial d = ⟨.error (.privateKeyInvalid .secp256r1), [], d⟩ := by
    refine import_key_refused (fun m => KeyManager.import_key_out_of_range rfl ?_ m) d
    decide +kernel
  rw [create_planned reg p (.text "local") .null .usual (.record halfOptions) d (half_planned reg d),
    carry_out_half_imported reg p .null halfOptions (chosen_key_derives (by decide) .secp256k1 true) refused]
  exact ⟨_, _, rfl, rfl⟩

theorem refused_creation_remains_half :
    let reg : EbsiRegistrar := ⟨.null, []⟩
    let p : Partners (List Rehearsal.Prepared) := ⟨LedgerSession.scripted, .keyManager, .int 0⟩
    let d : Desk (List Rehearsal.Prepared) := ⟨⟨[], []⟩, KeyManager.empty, []⟩
    let ended := reg.createIdentifier p (.text "local") .null .usual (.record halfOptions) d
    (ended.result = .error (.privateKeyInvalid .secp256r1) ∧ ended.trace.Uncalled) ∧
      (((∃ cause, Unplanned reg (.text "local") .usual (.record halfOptions) d cause) ∧ ended.desk.keys = d.keys) ∨
        ∃ o plan, Planned reg (.text "local") .usual (.record halfOptions) d o plan ∧ Remains plan d.keys ended.desk.keys) := by
  intro reg p d ended
  obtain ⟨trace, random, run, silent⟩ := half_run reg p d
  have failed : ended.result = .error (.privateKeyInvalid .secp256r1) := congrArg Ended.result run
  have uncalled : ended.trace.Uncalled := by
    intro c
    rw [congrArg Ended.trace run, silent]
    exact List.not_mem_nil
  exact ⟨⟨failed, uncalled⟩, refused_creation_remains failed uncalled⟩

-- The second key is zero. The controller was not there before, and is there now.
theorem controller_left_behind :
    let reg : EbsiRegistrar := ⟨.null, []⟩
    let p : Partners (List Rehearsal.Prepared) := ⟨LedgerSession.scripted, .keyManager, .int 0⟩
    let d : Desk (List Rehearsal.Prepared) := ⟨⟨[], []⟩, KeyManager.empty, []⟩
    let ended := reg.createIdentifier p (.text "local") .null .usual (.record halfOptions) d
    ended.result = .error (.privateKeyInvalid .secp256r1) ∧ ended.trace.requests = [] ∧
      d.keys.getKey (.text "k1") = .error (.unknownKey "k1") ∧
      ended.desk.keys.getKey (.text "k1") = .ok (chosenDescriptor "k1" .secp256k1 true) := by
  intro reg p d ended
  obtain ⟨trace, random, run, silent⟩ := half_run reg p d
  have requests : ended.trace.requests = [] := (congrArg (fun ended => ended.trace.requests) run).trans silent
  have after : ended.desk.keys = d.keys.store oneText (chosenDescriptor "k1" .secp256k1 true) :=
    congrArg (fun ended => ended.desk.keys) run
  refine ⟨congrArg Ended.result run, requests, rfl, ?_⟩
  rw [after]
  exact stored_found (chosen_key_derives (by decide) .secp256k1 true) d.keys

end EbsiRegistrar
end EbsiDid
