import EbsiDid.Proofs.Key.Assignment
import EbsiDid.Proofs.Registrar.Custody
import EbsiDid.Proofs.Registrar.KeyAddition

set_option autoImplicit false

/-!
The life of an identifier after its creation. Its keys and services grow at their end, by what was added with
success and by nothing else, and its controller key stays the first one: it is found whatever kids come later,
and every later session is its own.
-/
namespace EbsiDid

namespace Value

theorem nan_unread {x : Binary64} (nan : x.isNan = true) : x.toInt? = none ∧ x.isZero = false := by
  have unread : x.reading = .nan := by
    unfold Binary64.isNan at nan
    split at nan
    · assumption
    · cases nan
  rw [Binary64.toInt?, Binary64.isZero, unread]
  exact ⟨rfl, rfl⟩

theorem alike_nan {a b : Value} (nan : b.isNan = true) (same : a.alike b = true) : a = b := by
  cases b with
  | real y =>
      obtain ⟨unwhole, nonzero⟩ := nan_unread nan
      cases a with
      | real x =>
          cases whole : x.toInt? with
          | some n => simp [alike, scalarsAlike, numeric?, unwhole, whole, Numeric.same] at same
          | none =>
              simpa [alike, scalarsAlike, numeric?, unwhole, whole, Numeric.same, Binary64.same_iff, nonzero] using same
      | bool b => simp [alike, scalarsAlike, numeric?, unwhole, Numeric.same] at same
      | int n => simp [alike, scalarsAlike, numeric?, unwhole, Numeric.same] at same
      | _ => cases same
  | _ => cases nan

-- Nothing equals a NaN, itself included.
theorem equals_nan (a : Value) {b : Value} (nan : b.isNan = true) : a.equals b = false := by
  cases same : a.alike b with
  | false => rw [equals, same, Bool.false_and]
  | true => rw [equals, alike_nan nan same, nan, Bool.not_true, Bool.and_false]

theorem equals_self {a : Value} (scalar : a.hashable = true) (number : a.isNan = false) : a.equals a = true := by
  rw [equals, alike_self a scalar, number]
  rfl

end Value

namespace EbsiRegistrar

variable {τ : Type}

/-! ### Sessions in the name of a key -/

-- All steps name the address of one key as their sender.
def SentBy (controller : KeyDescriptor) (steps : List WriteStep) : Prop :=
  ∃ sender, controller.address = .ok sender ∧ ∀ step ∈ steps, step.member "from" = .text sender

theorem add_key_sent {did : Value} {controller key : KeyDescriptor} {rels : List Purpose} {v : Validity}
    {steps : List WriteStep} (built : addKeySteps did controller key rels v = .ok steps) : SentBy controller steps := by
  obtain ⟨sender, methodId, method, address, _, _, concerns, rfl⟩ := add_key_built built
  exact ⟨sender, address, fun step among => (grants_concern concerns among).sender⟩

theorem add_service_sent {did : Value} {controller : KeyDescriptor} {service : Service} {steps : List WriteStep}
    (built : ((WriteStep.addService did controller service).map fun step => [step]) = .ok steps) :
    SentBy controller steps := by
  cases address : controller.address with
  | error e =>
      rw [WriteStep.addService, address] at built
      cases built
  | ok sender =>
      rw [WriteStep.addService, address] at built
      cases built
      refine ⟨sender, address, ?_⟩
      intro step among
      cases List.mem_singleton.mp among
      rfl

-- A signature under the key's kid, a submission, or a call that builds from the key's address.
def InNameOf (controller : KeyDescriptor) : Request → Prop
  | .sign kid _ => kid = controller.kid
  | .call c => c.method = .text "sendSignedTransaction" ∨
      ∃ sender, controller.address = .ok sender ∧ c.member "from" = .text sender

theorem session_in_name_of {terms : SessionTerms} {id : Value} {steps : List WriteStep} {contacts : List Contact}
    {result : Except Error (List Value)} {controller : KeyDescriptor}
    (session : LedgerSession.Session terms id steps contacts result) (kid : terms.kid = controller.kid)
    (sent : SentBy controller steps) : ∀ contact ∈ contacts, InNameOf controller contact.request := by
  intro contact member
  cases contact with
  | call c answer =>
      have among : c ∈ Contact.calls contacts := List.mem_filterMap.mpr ⟨_, member, rfl⟩
      obtain ⟨step, given, rfl⟩ | ⟨unsigned, signed, rfl⟩ := LedgerSession.session_calls session among
      · obtain ⟨sender, address, same⟩ := sent
        exact .inr ⟨sender, address, (WriteStep.member_build _ _ _ _).trans (same step given)⟩
      · exact .inl rfl
  | sign other transaction answer =>
      have among : (other, transaction) ∈ Contact.signatures contacts := List.mem_filterMap.mpr ⟨_, member, rfl⟩
      exact (LedgerSession.session_signatures session among).trans kid

theorem write_in_name_of (reg : EbsiRegistrar) (p : Partners τ) (o : Record) {controller : KeyDescriptor}
    {steps : Except Error (List WriteStep)} (sent : ∀ list, steps = .ok list → SentBy controller list) (d : Desk τ) :
    ∀ request ∈ (reg.write p controller.kid o steps d).trace.requests, InNameOf controller request := by
  intro request member
  cases steps with
  | error e => cases member
  | ok list =>
      obtain ⟨e, run, _⟩ | ⟨terms, id, contacts, kid, _, requested, session⟩ := write_cases reg p controller.kid o list d
      · rw [run] at member
        cases member
      · rw [requested] at member
        obtain ⟨contact, among, rfl⟩ := List.mem_map.mp member
        exact session_in_name_of session kid (sent list rfl) contact among

/-! ### One operation -/

-- An operation on an identifier makes `grown` of it or leaves it as it is. Whatever it asks for, it asks in
-- the name of the controller key that the identifier has then.
structure Turn {α : Type} (i grown : Identifier) (ended : Ended τ α) : Prop where
  succeeds : ∀ a, ended.result = .ok a → ended.trace.appliedTo i = grown
  fails : ∀ e, ended.result = .error e → ended.trace.appliedTo i = i
  named : ∀ request ∈ ended.trace.requests, ∃ controller, i.controllerKey = .ok controller ∧ InNameOf controller request

theorem turn_refused {α : Type} {i grown : Identifier} {e : Error} {d : Desk τ} :
    Turn i grown (⟨.error e, [], d⟩ : Ended τ α) := ⟨nofun, fun _ _ => rfl, nofun⟩

theorem bind_pure {α β : Type} (x : Act τ α) (f : α → β) (d : Desk τ) :
    (x >>= fun a => pure (f a)) d = ⟨(x d).result.map f, (x d).trace, (x d).desk⟩ := by
  cases outcome : (x d).result with
  | error e =>
      rw [Act.bind_of_error outcome]
      rfl
  | ok a =>
      rw [Act.bind_of_ok outcome]
      simp only [pure, Act.pure, List.append_nil, Except.map]

theorem turn_mapped {α β : Type} {i grown : Identifier} {ended : Ended τ α} (turn : Turn i grown ended) (f : α → β) :
    Turn i grown (⟨ended.result.map f, ended.trace, ended.desk⟩ : Ended τ β) := by
  refine ⟨?_, ?_, turn.named⟩
  · intro b returned
    obtain ⟨a, succeeded⟩ := (LedgerSession.map_returns f ended.result).mp ⟨b, returned⟩
    exact turn.succeeds a succeeded
  · intro e raised
    cases outcome : ended.result with
    | error other => exact turn.fails other outcome
    | ok a =>
        rw [outcome] at raised
        cases raised

-- A session in the controller's name, with one event noted after its success.
theorem turn_of_write {α : Type} {i : Identifier} {controller : KeyDescriptor} (reg : EbsiRegistrar) (p : Partners τ)
    (o : Record) {steps : Except Error (List WriteStep)} (found : i.controllerKey = .ok controller)
    (sent : ∀ list, steps = .ok list → SentBy controller list) (event : Event) (quiet : event.request? = none)
    (f : List Value → α) (d : Desk τ) :
    Turn i (event.appliedTo i) ((reg.write p controller.kid o steps >>= fun receipts =>
      Act.record event >>= fun _ => pure (f receipts)) d) := by
  obtain ⟨grown, kept⟩ := Act.noted_applied (spares_write reg p controller.kid o steps) event f d i
  obtain ⟨_, traced, _⟩ := Act.noted_run (reg.write p controller.kid o steps) event quiet f d
  refine ⟨grown, kept, ?_⟩
  intro request member
  rw [traced] at member
  exact ⟨controller, found, write_in_name_of reg p o sent d request member⟩

theorem add_key_turn (reg : EbsiRegistrar) (p : Partners τ) (i : Identifier) (key : KeyDescriptor) (options : Value)
    (d : Desk τ) : Turn i (i.addKey key) (reg.addKey p i key options d) := by
  by_cases checks : ∃ o rels controller, Checked i options o rels controller
  · obtain ⟨o, rels, controller, checked⟩ := checks
    rw [add_key_checked reg p i key options d checked]
    cases Validity.ofOptions o p.clock with
    | error e => exact turn_refused
    | ok v =>
        exact turn_of_write reg p o checked.found (fun _ built => add_key_sent built) (.addedKey key) rfl
          (fun receipts => (receipts, i.addKey key)) d
  · obtain ⟨e, run⟩ := add_key_unchecked reg p i key options d checks
    rw [run]
    exact turn_refused

theorem add_service_turn (reg : EbsiRegistrar) (p : Partners τ) (i : Identifier) (service : Service) (options : Value)
    (d : Desk τ) : Turn i (i.addService service) (reg.addService p i service options d) := by
  by_cases checks : ∃ o controller, ServiceChecked i options o controller
  · obtain ⟨o, controller, checked⟩ := checks
    rw [add_service_checked reg p i service options d checked]
    exact turn_of_write reg p o checked.found (fun _ built => add_service_sent built) (.addedService service) rfl
      (fun receipts => (receipts.headD .null, i.addService service)) d
  · obtain ⟨e, run⟩ := add_service_unchecked reg p i service options d checks
    rw [run]
    exact turn_refused

/-! ### Any sequence of operations -/

inductive Demand where
  | addKey (key : KeyDescriptor) (options : Value)
  | addService (service : Service) (options : Value)
  | removeKey (kid options : Value)
  | removeService (serviceId options : Value)
  | updateIdentifier (document options : Value)
  | deleteIdentifier

def Demand.on (i : Identifier) : Demand → Operation KeyDescriptor Service
  | .addKey key options => .addKey i key options
  | .addService service options => .addService i service options
  | .removeKey kid options => .removeKey i kid options
  | .removeService serviceId options => .removeService i serviceId options
  | .updateIdentifier document options => .updateIdentifier i document options
  | .deleteIdentifier => .deleteIdentifier i

def Demand.keys : Demand → List KeyDescriptor
  | .addKey key _ => [key]
  | _ => []

def Demand.services : Demand → List Service
  | .addService service _ => [service]
  | _ => []

-- What a demand makes of an identifier if it is met.
def Demand.grown (i : Identifier) (demand : Demand) : Identifier :=
  { i with keys := i.keys ++ demand.keys, services := i.services ++ demand.services }

theorem add_key_grown (i : Identifier) (key : KeyDescriptor) (options : Value) :
    Demand.grown i (.addKey key options) = i.addKey key := by
  simp only [Demand.grown, Demand.keys, Demand.services, List.append_nil, Identifier.addKey]

theorem add_service_grown (i : Identifier) (service : Service) (options : Value) :
    Demand.grown i (.addService service options) = i.addService service := by
  simp only [Demand.grown, Demand.keys, Demand.services, List.append_nil, Identifier.addService]

-- A demand, with the registrar and the partners that it is put to and the desk as it stands then. Nothing says
-- that it is the desk that the demand before it left: others may have been at it in between.
structure Occasion (τ : Type) where
  demand : Demand
  registrar : EbsiRegistrar
  partners : Partners τ
  desk : Desk τ

namespace Occasion

def ended (i : Identifier) (o : Occasion τ) : Ended τ Performed := o.registrar.perform o.partners (o.demand.on i) o.desk

def succeeds (i : Identifier) (o : Occasion τ) : Bool :=
  match (o.ended i).result with
  | .ok _ => true
  | .error _ => false

def after (i : Identifier) (o : Occasion τ) : Identifier := (o.ended i).trace.appliedTo i

def keysAdded (i : Identifier) (o : Occasion τ) : List KeyDescriptor := if o.succeeds i then o.demand.keys else []

def servicesAdded (i : Identifier) (o : Occasion τ) : List Service := if o.succeeds i then o.demand.services else []

end Occasion

theorem demand_turn (i : Identifier) (o : Occasion τ) : Turn i (o.demand.grown i) (o.ended i) := by
  obtain ⟨demand, registrar, p, d⟩ := o
  cases demand with
  | addKey key options =>
      have turn := turn_mapped (add_key_turn registrar p i key options d) fun pair =>
        (⟨.receipts pair.1, pair.2⟩ : Performed)
      rw [← bind_pure, ← add_key_grown i key options] at turn
      exact turn
  | addService service options =>
      have turn := turn_mapped (add_service_turn registrar p i service options d) fun pair =>
        (⟨.receipt pair.1, pair.2⟩ : Performed)
      rw [← bind_pure, ← add_service_grown i service options] at turn
      exact turn
  | deleteIdentifier =>
      have same : Demand.grown i .deleteIdentifier = i := by
        simp only [Demand.grown, Demand.keys, Demand.services, List.append_nil]
      exact ⟨fun _ _ => same.symm, fun _ _ => rfl, nofun⟩
  | _ => exact turn_refused

-- One occasion appends what it added with success, and nothing else.
theorem occasion_appends (i : Identifier) (o : Occasion τ) :
    o.after i = { i with keys := i.keys ++ o.keysAdded i, services := i.services ++ o.servicesAdded i } := by
  have turn := demand_turn i o
  cases outcome : (o.ended i).result with
  | error e =>
      have failed : o.succeeds i = false := by rw [Occasion.succeeds, outcome]
      rw [Occasion.after, turn.fails e outcome, Occasion.keysAdded, Occasion.servicesAdded, failed,
        if_neg Bool.false_ne_true, if_neg Bool.false_ne_true, List.append_nil, List.append_nil]
  | ok answer =>
      have done : o.succeeds i = true := by rw [Occasion.succeeds, outcome]
      rw [Occasion.after, turn.succeeds answer outcome, Occasion.keysAdded, Occasion.servicesAdded, done, if_pos rfl,
        if_pos rfl, Demand.grown]

def lifetime (i : Identifier) (occasions : List (Occasion τ)) : Identifier := occasions.foldl (fun i o => o.after i) i

def keysAdded : Identifier → List (Occasion τ) → List KeyDescriptor
  | _, [] => []
  | i, o :: rest => o.keysAdded i ++ keysAdded (o.after i) rest

def servicesAdded : Identifier → List (Occasion τ) → List Service
  | _, [] => []
  | i, o :: rest => o.servicesAdded i ++ servicesAdded (o.after i) rest

theorem lifetime_appends (i : Identifier) (occasions : List (Occasion τ)) :
    lifetime i occasions =
      { i with keys := i.keys ++ keysAdded i occasions, services := i.services ++ servicesAdded i occasions } := by
  induction occasions generalizing i with
  | nil => simp only [lifetime, List.foldl_nil, keysAdded, servicesAdded, List.append_nil]
  | cons o rest ih =>
      rw [lifetime, List.foldl_cons, ← lifetime, ih (o.after i), keysAdded, servicesAdded]
      simp only [occasion_appends i o, List.append_assoc]

/-! ### The controller key -/

-- What a creation settles about the controller key of its identifier.
structure Controls (controller : KeyDescriptor) (i : Identifier) : Prop where
  first : i.keys.head? = some controller
  kid : i.controllerKeyId = controller.kid
  scalar : controller.kid.hashable = true
  type : controller.type = .secp256k1
  isController : controller.isController = .bool true
  invokes : .capabilityInvocation ∈ controller.purposes

theorem created_controls {reg : EbsiRegistrar} {p : Partners τ} {kms nickname : Value} {choice : SpecChoice}
    {options : Value} {d : Desk τ} {i : Identifier}
    (made : (reg.createIdentifier p kms nickname choice options d).result = .ok i) :
    ∃ controller, Controls controller i := by
  obtain ⟨o, plan, controller, second, controllerText, secondText, prepared, rfl⟩ := created_prepared made
  obtain ⟨settled, _⟩ := plan_settled prepared.planned
  obtain ⟨_, _, described⟩ := prepared.derivesController.descriptor
  obtain ⟨keyOptions, _, _, assigned⟩ := settled.options
  have typed : plan.controller.type = .secp256k1 := settled.type rfl
  rw [typed] at assigned
  refine ⟨controller, rfl, rfl, prepared.derivesController.scalar, ?_, ?_, ?_⟩
  · rw [described]
    exact typed
  · rw [described]
    exact settled.controller
  · rw [described]
    exact PurposeSet.assigned_invokes assigned

-- The first key is found as the controller key, whatever comes after it. Only a NaN is not found under itself.
theorem controls_found {controller : KeyDescriptor} {i : Identifier} (controls : Controls controller i)
    (number : i.controllerKeyId.isNan = false) : i.controllerKey = .ok controller := by
  obtain ⟨later, keys⟩ := List.head?_eq_some_iff.mp controls.first
  have same : controller.kid.equals i.controllerKeyId = true := by
    rw [controls.kid] at number ⊢
    exact Value.equals_self controls.scalar number
  rw [controller_key_found, keys]
  exact List.find?_cons_of_pos same

theorem controls_alone {controller other : KeyDescriptor} {i : Identifier} (controls : Controls controller i)
    (found : i.controllerKey = .ok other) : other = controller := by
  cases nan : i.controllerKeyId.isNan with
  | false =>
      rw [controls_found controls nan] at found
      cases found
      rfl
  | true =>
      have none : (i.keys.find? fun k => k.kid.equals i.controllerKeyId) = none := by
        rw [List.find?_eq_none]
        intro k _ same
        rw [Value.equals_nan k.kid nan] at same
        cases same
      rw [controller_key_found, none] at found
      cases found

theorem lifetime_controls {controller : KeyDescriptor} {i : Identifier} (controls : Controls controller i)
    (occasions : List (Occasion τ)) : Controls controller (lifetime i occasions) := by
  obtain ⟨later, keys⟩ := List.head?_eq_some_iff.mp controls.first
  rw [lifetime_appends]
  refine ⟨?_, controls.kid, controls.scalar, controls.type, controls.isController, controls.invokes⟩
  rw [keys]
  rfl

-- How an identifier stands at one time of its life: under its controller, growing at its end only, and asking
-- for nothing in another name.
structure Steady (τ : Type) (i s : Identifier) (controller : KeyDescriptor) : Prop where
  controls : Controls controller s
  controllerKeyId : s.controllerKeyId = i.controllerKeyId
  controllerKey : s.controllerKeyId.isNan = false → s.controllerKey = .ok controller
  grows : ∀ later : List (Occasion τ), lifetime s later =
    { s with keys := s.keys ++ keysAdded s later, services := s.services ++ servicesAdded s later }
  named : ∀ o : Occasion τ, ∀ request ∈ (o.ended s).trace.requests, InNameOf controller request

-- From its creation on, after any operations with any outcomes, an identifier stands steady under the key
-- with which it was made.
theorem created_lifetime {reg : EbsiRegistrar} {p : Partners τ} {kms nickname : Value} {choice : SpecChoice}
    {options : Value} {d : Desk τ} {i : Identifier}
    (made : (reg.createIdentifier p kms nickname choice options d).result = .ok i) (σ : Type) :
    ∃ controller, i.keys.head? = some controller ∧
      ∀ before : List (Occasion σ), Steady σ i (lifetime i before) controller := by
  obtain ⟨controller, controls⟩ := created_controls made
  refine ⟨controller, controls.first, ?_⟩
  intro before
  have still := lifetime_controls controls before
  refine ⟨still, still.kid.trans controls.kid.symm, controls_found still, lifetime_appends _, ?_⟩
  intro o request member
  obtain ⟨other, found, named⟩ := (demand_turn (lifetime i before) o).named request member
  rw [← controls_alone still found]
  exact named

theorem created_lifetime_chosen :
    let reg : EbsiRegistrar := ⟨.null, []⟩
    let p : Partners (List Rehearsal.Prepared) := ⟨LedgerSession.scripted, .keyManager, .int 0⟩
    let d : Desk (List Rehearsal.Prepared) := ⟨⟨[], []⟩, KeyManager.empty, []⟩
    let ended := reg.createIdentifier p (.text "local") .null .usual (.record (chosenOptions "k1" "k2" false)) d
    ∃ i, ended.result = .ok i ∧ ∃ controller, i.keys.head? = some controller ∧
      ∀ before : List (Occasion Unit), Steady Unit i (lifetime i before) controller := by
  intro reg p d ended
  have prepared := chosen_prepared reg (by decide : "k1" ≠ "") (by decide : "k2" ≠ "") false d
  have finished := create_finished reg p (.text "local") .null .usual _ d prepared
  exact ⟨_, (finished.unwritten rfl).1, created_lifetime (finished.unwritten rfl).1 _⟩

end EbsiRegistrar
end EbsiDid
