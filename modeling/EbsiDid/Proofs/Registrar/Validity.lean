import EbsiDid.Proofs.Registrar.KeyAddition
import EbsiDid.Proofs.Registrar.Registration

set_option autoImplicit false

/-!
From when until when the registry is asked to let a method be valid. The bounds in the options are carried as
they are, except that a bound of zero is taken for one that is not there.
-/
namespace EbsiDid

-- What the bounds of an interval come to for options that ask for integers or for nothing.
structure Spans (clock : Value) (o : Record) (start stop : Value) : Prop where
  starts : ∀ n : Int, o.get "not_before" = .int n → n ≠ 0 → start = .int n
  startsNow : o.get "not_before" = .null ∨ o.get "not_before" = .int 0 →
    ∃ now, clock.toInteger = .ok now ∧ start = .int now
  stops : ∀ n : Int, o.get "not_after" = .int n → n ≠ 0 → stop = .int n
  endless : o.get "not_after" = .null ∨ o.get "not_after" = .int 0 → stop = .int Registry.maxNotAfter
  asAsked : ∀ n m : Int, o.get "not_before" = .int n → o.get "not_after" = .int m →
    ((start = .int n ∧ stop = .int m) ↔ (n = 0 → clock.toInteger = .ok 0) ∧ m ≠ 0)

theorem counts_iff (n : Int) : (Value.int n).truthy = true ↔ n ≠ 0 := by
  simp [Value.truthy]

theorem interval_cases {o : Record} {clock : Value} {v : Validity} (interval : Validity.ofOptions o clock = .ok v) :
    v.notAfter = (o.get "not_after").orElse (.int Registry.maxNotAfter) ∧
      ((o.get "not_before").truthy = true ∧ v.notBefore = o.get "not_before" ∨
        (o.get "not_before").truthy = false ∧ ∃ now, clock.toInteger = .ok now ∧ v.notBefore = .int now) := by
  by_cases counts : (o.get "not_before").truthy = true
  · rw [Validity.ofOptions, if_pos counts] at interval
    cases interval
    exact ⟨rfl, .inl ⟨counts, rfl⟩⟩
  · rw [Validity.ofOptions, if_neg counts] at interval
    cases time : clock.toInteger with
    | error kind =>
        rw [time] at interval
        cases interval
    | ok now =>
        rw [time] at interval
        cases interval
        exact ⟨rfl, .inr ⟨Bool.eq_false_iff.mpr counts, now, rfl, rfl⟩⟩

theorem interval_clockless {o : Record} (counts : (o.get "not_before").truthy = true) (clock clock' : Value) :
    Validity.ofOptions o clock = Validity.ofOptions o clock' := by
  rw [Validity.ofOptions, Validity.ofOptions, if_pos counts, if_pos counts]

theorem interval_spans {o : Record} {clock : Value} {v : Validity} (interval : Validity.ofOptions o clock = .ok v) :
    Spans clock o v.notBefore v.notAfter := by
  obtain ⟨stop, start⟩ := interval_cases interval
  have starts : ∀ n : Int, o.get "not_before" = .int n → n ≠ 0 → v.notBefore = .int n := by
    intro n asked nonzero
    simpa [asked, Value.truthy, nonzero] using start
  have startsNow : o.get "not_before" = .null ∨ o.get "not_before" = .int 0 →
      ∃ now, clock.toInteger = .ok now ∧ v.notBefore = .int now := by
    rintro (unasked | unasked) <;> simpa [unasked, Value.truthy] using start
  have stops : ∀ n : Int, o.get "not_after" = .int n → n ≠ 0 → v.notAfter = .int n := by
    intro n asked nonzero
    rw [stop, asked, Value.orElse, if_pos ((counts_iff n).mpr nonzero)]
  have endless : o.get "not_after" = .null ∨ o.get "not_after" = .int 0 → v.notAfter = .int Registry.maxNotAfter := by
    rintro (unasked | unasked) <;> simp [stop, unasked, Value.orElse, Value.truthy]
  refine ⟨starts, startsNow, stops, endless, ?_⟩
  intro n m asked askedToo
  refine and_congr ?_ ?_
  · by_cases zero : n = 0
    · subst zero
      obtain ⟨now, time, start⟩ := startsNow (.inr asked)
      simp [start, time]
    · simp [starts n asked zero, zero]
  · by_cases zero : m = 0
    · subst zero
      simp [endless (.inr askedToo), Registry.maxNotAfter]
    · simp [stops m askedToo zero, zero]

namespace EbsiRegistrar

variable {τ : Type}

-- Every call that carries an interval carries the one that the options come to.
def Lasts (clock : Value) (o : Record) (t : Trace) : Prop :=
  ∀ c, .call c ∈ t.requests →
    c.method = .text "insertDidDocument" ∨ c.method = .text "addVerificationMethodRelationship" →
    Spans clock o (c.member "notBefore") (c.member "notAfter")

theorem lasting_builds {c : RpcCall}
    (lasting : c.method = .text "insertDidDocument" ∨ c.method = .text "addVerificationMethodRelationship") :
    c.method ≠ .text "sendSignedTransaction" ∧ c.method ≠ .text "addVerificationMethod" := by
  rcases lasting with method | method <;> rw [method] <;> simp

theorem create_requests (reg : EbsiRegistrar) (p : Partners τ) (kms nickname : Value) (choice : SpecChoice)
    {options : Value} {o : Record} (given : optionsOf options = .ok o) (d : Desk τ) :
    Lasts p.clock o (reg.createIdentifier p kms nickname choice options d).trace := by
  intro c asked lasting
  obtain ⟨building, lasts⟩ := lasting_builds lasting
  by_cases prepares : ∃ o plan controller second controllerText secondText,
      Prepared reg kms choice options d o plan controller second controllerText secondText
  · obtain ⟨other, plan, controller, second, controllerText, secondText, prepared⟩ := prepares
    have same : other = o := Except.ok.inj (prepared.options.symm.trans given)
    subst same
    have finished := create_finished reg p kms nickname choice options d prepared
    cases online : executes other with
    | false =>
        rw [(finished.unwritten online).2.1] at asked
        cases asked
    | true =>
        obtain ⟨settledController, settledSecond⟩ := plan_settled prepared.planned
        obtain ⟨_, _, rfl⟩ := prepared.derivesController.descriptor
        obtain ⟨_, _, rfl⟩ := prepared.derivesSecond.descriptor
        obtain ⟨keyOptions, _, _, assigned⟩ := settledSecond.options
        obtain ⟨contacts, registers⟩ := register_registering (PurposeSet.assigned_nonempty assigned)
          (settledController.type rfl) (finished.written online)
        rw [registers.requested, ← Contact.mem_calls] at asked
        obtain ⟨v, interval, start, stop⟩ := (registers.built c asked building).lasts lasts
        rw [start, stop]
        exact interval_spans interval
  · rw [(create_refused reg p kms nickname choice options d prepares).2] at asked
    cases asked

theorem add_key_requests (reg : EbsiRegistrar) (p : Partners τ) (i : Identifier) (key : KeyDescriptor)
    {options : Value} {o : Record} (given : optionsOf options = .ok o) (d : Desk τ) :
    Lasts p.clock o (reg.addKey p i key options d).trace := by
  intro c asked lasting
  obtain ⟨building, lasts⟩ := lasting_builds lasting
  by_cases checks : ∃ o rels controller, Checked i options o rels controller
  · obtain ⟨other, rels, controller, checked⟩ := checks
    have same : other = o := Except.ok.inj (checked.options.symm.trans given)
    subst same
    rw [add_key_checked reg p i key options d checked] at asked
    cases interval : Validity.ofOptions other p.clock with
    | error e =>
        rw [interval] at asked
        cases asked
    | ok v =>
        rw [interval, Act.of_except_bind_ok, (append_key_after (spares_write _ _ _ _ _) i key d).2.1] at asked
        obtain ⟨steps, terms, id, built, step, among, rfl⟩ := write_builds asked building
        obtain ⟨sender, methodId, method, _, _, named, _, rfl⟩ := add_key_built built
        -- The first step is the method itself. The others are the grants.
        cases List.mem_cons.mp among with
        | inl first =>
            subst first
            rw [LedgerSession.buildCall, named] at lasts
            exact absurd rfl lasts
        | inr later =>
            obtain ⟨purpose, _, rfl⟩ := List.mem_map.mp later
            exact interval_spans interval
  · obtain ⟨e, run⟩ := add_key_unchecked reg p i key options d checks
    rw [run] at asked
    cases asked

theorem register_clockless (reg : EbsiRegistrar) (p : Partners τ) {o : Record}
    (counts : (o.get "not_before").truthy = true) (clock did : Value) (controller second : KeyDescriptor) :
    reg.register { p with clock := clock } o did controller second = reg.register p o did controller second := by
  rw [register, register, interval_clockless counts clock p.clock]
  rfl

theorem create_clockless (reg : EbsiRegistrar) (p : Partners τ) (kms nickname : Value) (choice : SpecChoice)
    {options : Value} {o : Record} (given : optionsOf options = .ok o) (counts : (o.get "not_before").truthy = true)
    (clock : Value) :
    reg.createIdentifier { p with clock := clock } kms nickname choice options =
      reg.createIdentifier p kms nickname choice options := by
  funext d
  rw [createIdentifier, createIdentifier, given, Act.of_except_bind_ok, Act.of_except_bind_ok]
  simp only [carryOut, register_clockless reg p counts]

theorem add_key_clockless (reg : EbsiRegistrar) (p : Partners τ) (i : Identifier) (key : KeyDescriptor)
    {options : Value} {o : Record} (given : optionsOf options = .ok o) (counts : (o.get "not_before").truthy = true)
    (clock : Value) : reg.addKey { p with clock := clock } i key options = reg.addKey p i key options := by
  funext d
  rw [addKey, addKey, given, Act.of_except_bind_ok, Act.of_except_bind_ok, interval_clockless counts clock p.clock]
  rfl

-- Both operations that write an interval, whatever their course. The clock is read only for a start that is
-- missing or zero.
theorem intervals_requested (reg : EbsiRegistrar) (p : Partners τ) {options : Value} {o : Record}
    (given : optionsOf options = .ok o) :
    (∀ kms nickname choice d, Lasts p.clock o (reg.createIdentifier p kms nickname choice options d).trace) ∧
    (∀ i key d, Lasts p.clock o (reg.addKey p i key options d).trace) ∧
    ∀ n : Int, o.get "not_before" = .int n → n ≠ 0 → ∀ clock,
      (∀ kms nickname choice, reg.createIdentifier { p with clock := clock } kms nickname choice options =
        reg.createIdentifier p kms nickname choice options) ∧
      ∀ i key, reg.addKey { p with clock := clock } i key options = reg.addKey p i key options := by
  refine ⟨fun kms nickname choice d => create_requests reg p kms nickname choice given d,
    fun i key d => add_key_requests reg p i key given d, ?_⟩
  intro n asked nonzero clock
  have counts : (o.get "not_before").truthy = true := by rw [asked, counts_iff]; exact nonzero
  exact ⟨fun kms nickname choice => create_clockless reg p kms nickname choice given counts clock,
    fun i key => add_key_clockless reg p i key given counts clock⟩

section Granting

def boundedOptions (start stop : Int) : Record :=
  [("bearer_token", .text "token"), ("rpc_id", .int 5), ("not_before", .int start), ("not_after", .int stop),
   ("vm_relationships", .list [.text "authentication"])]

def holder : Identifier := ⟨.text "did:ebsi:z1", .text "k1", [baseKey "k1" .secp256k1], [], .null, .null⟩

def granting (start stop : Int) : Ended (List Rehearsal.Prepared) (List Value × Identifier) :=
  addKey ⟨.null, []⟩ ⟨LedgerSession.scripted, LedgerSession.ready, .int 1700000000⟩ holder (baseKey "k2" .secp256r1)
    (.record (boundedOptions start stop))
    ⟨⟨[], []⟩, KeyManager.empty,
      [.result .null, .result (.text "0xreceipt"), .result .null, .result (.text "0xreceipt")]⟩

-- The second step of the session is the grant.
theorem grant_requested {start stop : Int} {v : Validity}
    (interval : Validity.ofOptions (boundedOptions start stop) (.int 1700000000) = .ok v) :
    ∃ c, .call c ∈ (granting start stop).trace.requests ∧ c.method = .text "addVerificationMethodRelationship" ∧
      c.member "notBefore" = v.notBefore ∧ c.member "notAfter" = v.notAfter := by
  have sends : PublicKey.load (baseKey "k1" .secp256k1).publicKeyHex .secp256k1 = .ok _ :=
    load_uncompressed (base_point_holds .secp256k1)
  have loads : PublicKey.load (baseKey "k2" .secp256r1).publicKeyHex (baseKey "k2" .secp256r1).type = .ok _ :=
    load_uncompressed (base_point_holds .secp256r1)
  obtain ⟨sender, methodId, step, _, _, _, _, built⟩ :=
    add_key_steps_loaded holder.did [.authentication] v sends loads
  have checked : Checked holder (.record (boundedOptions start stop)) (boundedOptions start stop) [.authentication]
      (baseKey "k1" .secp256k1) := ⟨rfl, rfl, rfl, rfl⟩
  refine ⟨LedgerSession.buildCall ⟨.text "k1", .text "token", .record []⟩ (.int 5)
    (WriteStep.relationship sender holder.did methodId .authentication v.notBefore v.notAfter), ?_, rfl, rfl, rfl⟩
  rw [granting, add_key_checked _ _ _ _ _ _ checked, interval, Act.of_except_bind_ok, built,
    (append_key_after (spares_write _ _ _ _ _) holder (baseKey "k2" .secp256r1) _).2.1]
  exact .tail _ (.tail _ (.tail _ (.head _)))

theorem intervals_requested_bounded :
    optionsOf (.record (boundedOptions 1 2)) = .ok (boundedOptions 1 2) ∧
      ∃ c, .call c ∈ (granting 1 2).trace.requests ∧ c.method = .text "addVerificationMethodRelationship" ∧
        c.member "notBefore" = .int 1 ∧ c.member "notAfter" = .int 2 := by
  have given : optionsOf (.record (boundedOptions 1 2)) = .ok (boundedOptions 1 2) := rfl
  have interval : Validity.ofOptions (boundedOptions 1 2) (.int 1700000000) = .ok ⟨.int 1, .int 2⟩ := rfl
  obtain ⟨c, asked, method, _⟩ := grant_requested interval
  have spans := (intervals_requested ⟨.null, []⟩ _ given).2.1 _ _ _ c asked (.inr method)
  exact ⟨given, c, asked, method, spans.starts 1 rfl (by decide), spans.stops 2 rfl (by decide)⟩

-- With both bounds zero the grant is valid from now on, and does not end.
theorem zero_bounds_replaced :
    (boundedOptions 0 0).get "not_before" = .int 0 ∧ (boundedOptions 0 0).get "not_after" = .int 0 ∧
      ∃ c, .call c ∈ (granting 0 0).trace.requests ∧ c.method = .text "addVerificationMethodRelationship" ∧
        c.member "notBefore" = .int 1700000000 ∧ c.member "notAfter" = .int 9007199254740991 := by
  have interval : Validity.ofOptions (boundedOptions 0 0) (.int 1700000000) =
    .ok ⟨.int 1700000000, .int 9007199254740991⟩ := rfl
  exact ⟨rfl, rfl, grant_requested interval⟩

end Granting

end EbsiRegistrar
end EbsiDid
