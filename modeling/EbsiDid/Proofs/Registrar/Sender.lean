import EbsiDid.Proofs.Registrar.Lifetime
import EbsiDid.Proofs.Registrar.Validity

set_option autoImplicit false

/-!
From whose address a session is sent. The type of a controller key is not looked at when its address is computed,
so that one of the other type is caught only if its text is no point of Secp256k1.
-/
namespace EbsiDid

-- A key of another type whose text is read as a point of Secp256k1.
structure Misread (k : KeyDescriptor) (r : Point) : Prop where
  type : k.type ≠ .secp256k1
  loads : PublicKey.load k.publicKeyHex .secp256k1 = .ok r

theorem misread_iff {k : KeyDescriptor} {key : Option String} {q : Point} (other : k.type ≠ .secp256k1)
    (text : k.publicKeyHex = PublicKey.given key) (spelt : PublicKey.Spells k.type key q) :
    (∃ r, Misread k r) ↔
      (Hex.SpellsMarked (key.getD "") (Sec1.compressed q) ∧
        ∃ y, Curve.secp256k1.holds ⟨q.x, y⟩ = true ∧ y % 2 = q.y % 2) ∨
      (¬ Hex.SpellsMarked (key.getD "") (Sec1.compressed q) ∧ Curve.secp256k1.holds q = true) := by
  have misread : ∀ r, Misread k r ↔ PublicKey.Spells .secp256k1 key r := by
    intro r
    rw [← PublicKey.load_iff, ← text]
    exact ⟨Misread.loads, fun loads => ⟨other, loads⟩⟩
  rw [exists_congr misread]
  exact PublicKey.spells_other_iff spelt

namespace KeyDescriptor

theorem address_iff {k : KeyDescriptor} {sender : String} :
    k.address = .ok sender ↔
      ∃ r, PublicKey.load k.publicKeyHex .secp256k1 = .ok r ∧ sender = Address.text (Address.ofPoint r) := by
  cases loaded : PublicKey.load k.publicKeyHex .secp256k1 with
  | error e => simp [address_of_unloaded loaded]
  | ok q => simp [address_at loaded, eq_comm]

end KeyDescriptor

namespace EbsiRegistrar

variable {τ : Type}

-- An operation has something built exactly if its request is fit. Else it raises and has asked for nothing.
structure AsksIf {α : Type} (fit : Prop) (ended : Ended τ α) : Prop where
  asks : fit → ∃ c, .call c ∈ ended.trace.requests ∧ c.method ≠ .text "sendSignedTransaction"
  refuses : ¬ fit → (∃ e, ended.result = .error e) ∧ ended.trace.requests = []

theorem asks_refused {α : Type} {fit : Prop} {e : Error} {d : Desk τ} (unfit : ¬ fit) :
    AsksIf fit (⟨.error e, [], d⟩ : Ended τ α) := ⟨fun fits => absurd fits unfit, fun _ => ⟨⟨e, rfl⟩, rfl⟩⟩

theorem asks_congr {α : Type} {fit fit' : Prop} {ended : Ended τ α} (same : fit ↔ fit') (asks : AsksIf fit ended) :
    AsksIf fit' ended :=
  ⟨fun fits => asks.asks (same.mpr fits), fun unfit => asks.refuses fun fits => unfit (same.mp fits)⟩

theorem asks_noted {α β : Type} {fit : Prop} {x : Act τ α} {d : Desk τ} (asks : AsksIf fit (x d)) (event : Event)
    (quiet : event.request? = none) (f : α → β) :
    AsksIf fit ((x >>= fun a => Act.record event >>= fun _ => pure (f a)) d) := by
  obtain ⟨ends, traced, _⟩ := Act.noted_run x event quiet f d
  constructor
  · rw [traced]
    exact asks.asks
  · intro unfit
    obtain ⟨⟨e, failed⟩, silent⟩ := asks.refuses unfit
    rw [ends, traced, failed]
    exact ⟨⟨e, rfl⟩, silent⟩

theorem build_not_sent (terms : SessionTerms) (id : Value) {step : WriteStep}
    (builds : step.method ≠ .sendSignedTransaction) :
    (LedgerSession.buildCall terms id step).method ≠ .text "sendSignedTransaction" := by
  cases named : step.method <;> simp_all [LedgerSession.buildCall, RpcMethod.name]

-- Steps that begin with one that builds.
def Begins (steps : List WriteStep) : Prop := ∃ step rest, steps = step :: rest ∧ step.method ≠ .sendSignedTransaction

theorem write_asks (reg : EbsiRegistrar) (p : Partners τ) (kid : Value) (o : Record)
    {steps : Except Error (List WriteStep)} (begins : ∀ list, steps = .ok list → Begins list) (d : Desk τ) :
    AsksIf ((∃ list, steps = .ok list) ∧ ¬ Unready reg o d) (reg.write p kid o steps d) := by
  cases steps with
  | error e =>
      rw [write_unbuilt]
      exact asks_refused fun fits => nomatch fits.1
  | ok list =>
      obtain ⟨step, rest, rfl, builds⟩ := begins list rfl
      by_cases unready : Unready reg o d
      · obtain ⟨e, run⟩ := write_unready unready p kid (step :: rest)
        rw [run]
        exact asks_refused fun fits => fits.2 unready
      · obtain ⟨terms, id, asked⟩ := write_begins unready p kid step rest
        exact ⟨fun _ => ⟨_, asked, build_not_sent terms id builds⟩,
          fun unfit => absurd ⟨⟨_, rfl⟩, unready⟩ unfit⟩

theorem add_service_built_iff (did : Value) (controller : KeyDescriptor) (service : Service) :
    (∃ steps, ((WriteStep.addService did controller service).map fun step => [step]) = .ok steps) ↔
      ∃ r, PublicKey.load controller.publicKeyHex .secp256k1 = .ok r := by
  cases loaded : PublicKey.load controller.publicKeyHex .secp256k1 with
  | error e =>
      rw [WriteStep.addService, KeyDescriptor.address_of_unloaded loaded]
      constructor
      · rintro ⟨steps, built⟩
        cases built
      · rintro ⟨r, loads⟩
        cases loads
  | ok r =>
      rw [WriteStep.addService, KeyDescriptor.address_at loaded]
      exact ⟨fun _ => ⟨r, rfl⟩, fun _ => ⟨_, rfl⟩⟩

-- What a request needs, apart from a sender.
def FitKey (reg : EbsiRegistrar) (p : Partners τ) (i : Identifier) (key : KeyDescriptor) (options : Value) (d : Desk τ)
    (controller : KeyDescriptor) : Prop :=
  ∃ o rels v, Checked i options o rels controller ∧ Validity.ofOptions o p.clock = .ok v ∧
    (∃ q, PublicKey.load key.publicKeyHex key.type = .ok q) ∧ ¬ Unready reg o d

def FitService (reg : EbsiRegistrar) (i : Identifier) (options : Value) (d : Desk τ) (controller : KeyDescriptor) : Prop :=
  ∃ o, ServiceChecked i options o controller ∧ ¬ Unready reg o d

section Requests

variable (reg : EbsiRegistrar) (p : Partners τ) {i : Identifier} {controller : KeyDescriptor} (options : Value)
  (d : Desk τ)

theorem fit_key_iff {o : Record} {rels : List Purpose} (checked : Checked i options o rels controller)
    (key : KeyDescriptor) :
    FitKey reg p i key options d controller ↔ (∃ v, Validity.ofOptions o p.clock = .ok v) ∧
      (∃ q, PublicKey.load key.publicKeyHex key.type = .ok q) ∧ ¬ Unready reg o d := by
  constructor
  · rintro ⟨o', rels', v, checked', interval, loads, ready⟩
    cases checked.options.symm.trans checked'.options
    exact ⟨⟨v, interval⟩, loads, ready⟩
  · rintro ⟨⟨v, interval⟩, loads, ready⟩
    exact ⟨o, rels, v, checked, interval, loads, ready⟩

theorem fit_service_iff {o : Record} (checked : ServiceChecked i options o controller) :
    FitService reg i options d controller ↔ ¬ Unready reg o d := by
  constructor
  · rintro ⟨o', checked', ready⟩
    cases checked.options.symm.trans checked'.options
    exact ready
  · intro ready
    exact ⟨o, checked, ready⟩

theorem add_key_asks (found : i.controllerKey = .ok controller) (key : KeyDescriptor) :
    AsksIf (FitKey reg p i key options d controller ∧ ∃ r, PublicKey.load controller.publicKeyHex .secp256k1 = .ok r)
      (reg.addKey p i key options d) := by
  by_cases checks : ∃ o rels other, Checked i options o rels other
  · obtain ⟨o, rels, other, checked⟩ := checks
    cases checked.found.symm.trans found
    rw [add_key_checked reg p i key options d checked, fit_key_iff reg p options d checked key]
    cases interval : Validity.ofOptions o p.clock with
    | error e => exact asks_refused fun fits => nomatch fits.1.1
    | ok v =>
        have begins : ∀ steps, addKeySteps i.did controller key rels v = .ok steps → Begins steps := by
          intro steps built
          obtain ⟨_, _, method, _, _, named, _, rfl⟩ := add_key_built built
          exact ⟨method, _, rfl, by rw [named]; decide⟩
        refine asks_congr ?_ (asks_noted (write_asks reg p controller.kid o begins d) (.addedKey key) rfl (·, i.addKey key))
        rw [add_key_built_iff]
        constructor
        · rintro ⟨⟨sends, loads⟩, ready⟩
          exact ⟨⟨⟨v, rfl⟩, loads, ready⟩, sends⟩
        · rintro ⟨⟨_, loads, ready⟩, sends⟩
          exact ⟨⟨sends, loads⟩, ready⟩
  · obtain ⟨e, run⟩ := add_key_unchecked reg p i key options d checks
    rw [run]
    refine asks_refused ?_
    rintro ⟨⟨o, rels, v, checked, _⟩, _⟩
    exact checks ⟨o, rels, controller, checked⟩

theorem add_service_asks (found : i.controllerKey = .ok controller) (service : Service) :
    AsksIf (FitService reg i options d controller ∧ ∃ r, PublicKey.load controller.publicKeyHex .secp256k1 = .ok r)
      (reg.addService p i service options d) := by
  by_cases checks : ∃ o other, ServiceChecked i options o other
  · obtain ⟨o, other, checked⟩ := checks
    cases checked.found.symm.trans found
    rw [add_service_checked reg p i service options d checked, fit_service_iff reg options d checked]
    have begins : ∀ steps, ((WriteStep.addService i.did controller service).map fun step => [step]) = .ok steps →
        Begins steps := by
      intro steps built
      cases address : controller.address with
      | error e =>
          rw [WriteStep.addService, address] at built
          cases built
      | ok sender =>
          rw [WriteStep.addService, address] at built
          cases built
          exact ⟨_, [], rfl, RpcMethod.noConfusion⟩
    refine asks_congr ?_ (asks_noted (write_asks reg p controller.kid o begins d) (.addedService service) rfl
      fun receipts => (receipts.headD .null, i.addService service))
    rw [add_service_built_iff]
    exact and_comm
  · obtain ⟨e, run⟩ := add_service_unchecked reg p i service options d checks
    rw [run]
    refine asks_refused ?_
    rintro ⟨⟨o, checked, _⟩, _⟩
    exact checks ⟨o, controller, checked⟩

end Requests

-- Whatever an operation has built, it has built for the address of the point that the controller key is read as.
theorem sent_from {α : Type} {i grown : Identifier} {controller : KeyDescriptor} {ended : Ended τ α} {c : RpcCall}
    (turn : Turn i grown ended) (found : i.controllerKey = .ok controller) (asked : .call c ∈ ended.trace.requests)
    (building : c.method ≠ .text "sendSignedTransaction") :
    ∃ r, PublicKey.load controller.publicKeyHex .secp256k1 = .ok r ∧
      c.member "from" = .text (Address.text (Address.ofPoint r)) := by
  obtain ⟨other, foundToo, named⟩ := turn.named _ asked
  cases found.symm.trans foundToo
  rcases named with submitted | ⟨sender, address, same⟩
  · exact absurd submitted building
  · obtain ⟨r, loads, rfl⟩ := KeyDescriptor.address_iff.mp address
    exact ⟨r, loads, same⟩

-- An operation in the name of a controller that is not Secp256k1.
structure Strays {α : Type} (fit : Prop) (controller : KeyDescriptor) (ended : Ended τ α) : Prop where
  asks : AsksIf (fit ∧ ∃ r, Misread controller r) ended
  sender : ∀ c, .call c ∈ ended.trace.requests → c.method ≠ .text "sendSignedTransaction" →
    ∃ r, Misread controller r ∧ c.member "from" = .text (Address.text (Address.ofPoint r))

theorem strays_of_turn {α : Type} {fit : Prop} {i grown : Identifier} {controller : KeyDescriptor} {ended : Ended τ α}
    (found : i.controllerKey = .ok controller) (other : controller.type ≠ .secp256k1) (turn : Turn i grown ended)
    (asks : AsksIf (fit ∧ ∃ r, PublicKey.load controller.publicKeyHex .secp256k1 = .ok r) ended) :
    Strays fit controller ended := by
  constructor
  · exact asks_congr
      (and_congr_right fun _ => exists_congr fun r => ⟨fun loads => ⟨other, loads⟩, Misread.loads⟩) asks
  · intro c asked building
    obtain ⟨r, loads, same⟩ := sent_from turn found asked building
    exact ⟨r, ⟨other, loads⟩, same⟩

-- With a controller that is not Secp256k1, both operations raise before anything is asked for, unless its text is
-- a point of Secp256k1 as well. They are then sent from the address of that point.
theorem other_controller_strays (reg : EbsiRegistrar) (p : Partners τ) {i : Identifier} {controller : KeyDescriptor}
    (found : i.controllerKey = .ok controller) (other : controller.type ≠ .secp256k1) :
    (∀ key options d, Strays (FitKey reg p i key options d controller) controller (reg.addKey p i key options d)) ∧
    (∀ service options d, Strays (FitService reg i options d controller) controller
      (reg.addService p i service options d)) ∧
    ∀ (key : Option String) (q : Point), controller.publicKeyHex = PublicKey.given key →
      PublicKey.Spells controller.type key q →
      ((∃ r, Misread controller r) ↔
        (Hex.SpellsMarked (key.getD "") (Sec1.compressed q) ∧
          ∃ y, Curve.secp256k1.holds ⟨q.x, y⟩ = true ∧ y % 2 = q.y % 2) ∨
        (¬ Hex.SpellsMarked (key.getD "") (Sec1.compressed q) ∧ Curve.secp256k1.holds q = true)) := by
  refine ⟨?_, ?_, fun key q text spelt => misread_iff other text spelt⟩
  · intro key options d
    exact strays_of_turn found other (add_key_turn reg p i key options d) (add_key_asks reg p options d found key)
  · intro service options d
    exact strays_of_turn found other (add_service_turn reg p i service options d)
      (add_service_asks reg p options d found service)

section Straying

-- The base point of the other curve, in one of its forms.
def strayKey (form : Bytes) : KeyDescriptor :=
  ⟨.text "k1", .secp256r1, .text (Hex.encode form), .null, PurposeSet.defaultFor .secp256r1, .null⟩

def straying (form : Bytes) : Identifier := ⟨.text "did:ebsi:z1", .text "k1", [strayKey form], [], .null, .null⟩

theorem stray_found (form : Bytes) : (straying form).controllerKey = .ok (strayKey form) := rfl

-- The uncompressed form is caught.
theorem other_controller_refused_uncompressed :
    let i := straying (Sec1.uncompressed (basePoint .secp256r1))
    let controller := strayKey (Sec1.uncompressed (basePoint .secp256r1))
    i.controllerKey = .ok controller ∧ controller.type ≠ .secp256k1 ∧
      ∀ (reg : EbsiRegistrar) (p : Partners Unit) (service : Service) (options : Value) (d : Desk Unit),
        let ended := reg.addService p i service options d
        (∃ e, ended.result = .error e) ∧ ended.trace.requests = [] := by
  intro i controller
  have found : i.controllerKey = .ok controller := stray_found _
  have other : controller.type ≠ .secp256k1 := by decide
  have spelt : PublicKey.Spells .secp256r1 (some (Hex.encode (Sec1.uncompressed (basePoint .secp256r1))))
    (basePoint .secp256r1) := PublicKey.spelt_uncompressed (base_point_holds .secp256r1)
  refine ⟨found, other, ?_⟩
  intro reg p service options d ended
  obtain ⟨_, services, encodings⟩ := other_controller_strays reg p found other
  refine (services service options d).asks.refuses ?_
  rintro ⟨_, misread⟩
  rcases (encodings _ _ rfl spelt).mp misread with ⟨compressed, _⟩ | ⟨_, both⟩
  · have decoded := Hex.decode_strip_iff.mpr compressed
    rw [Option.getD_some, Hex.strip_encode, Hex.decode_encode] at decoded
    have lengths := congrArg List.length (Option.some.inj decoded)
    rw [Sec1.uncompressed_length, Sec1.compressed_length] at lengths
    omega
  · have apart : Curve.secp256k1.holds (basePoint .secp256r1) = false := by decide +kernel
    rw [apart] at both
    cases both

-- The compressed form is read as the point of Secp256k1 over the same first coordinate.
def strayPoint : Point :=
  ⟨(basePoint .secp256r1).x, 0xf9bdb293a6a4ec507ced43436080aa412215245359757ee0ddba68ea02975f0d⟩

theorem stray_loads :
    PublicKey.load (strayKey (Sec1.compressed (basePoint .secp256r1))).publicKeyHex .secp256k1 = .ok strayPoint := by
  have on : Curve.secp256k1.holds strayPoint = true := by decide +kernel
  have odd : strayPoint.y % 2 = 1 := by decide +kernel
  have oddToo : (basePoint .secp256r1).y % 2 = 1 := by decide +kernel
  have same : Sec1.compressed strayPoint = Sec1.compressed (basePoint .secp256r1) := by
    rw [Sec1.compressed, Sec1.compressed, odd, oddToo, strayPoint]
  have among : Sec1.compressed (basePoint .secp256r1) ∈ PublicKey.forms strayPoint := by simp [PublicKey.forms, same]
  have spelt : PublicKey.Spells .secp256k1 (some (Hex.encode (Sec1.compressed (basePoint .secp256r1)))) strayPoint :=
    PublicKey.spelt_encoded on among
  have loaded := PublicKey.load_iff.mpr spelt
  rw [PublicKey.given] at loaded
  exact loaded

theorem bounded_ready (d : Desk τ) : ¬ Unready ⟨.null, []⟩ (boundedOptions 1 2) d := by
  intro unready
  cases unready with
  | address e failed => cases failed
  | rpcIds absent empty => cases absent

-- Both operations have a transaction built for the address of that point.
theorem stray_controller_sends :
    let i := straying (Sec1.compressed (basePoint .secp256r1))
    let controller := strayKey (Sec1.compressed (basePoint .secp256r1))
    let reg : EbsiRegistrar := ⟨.null, []⟩
    let p : Partners (List Rehearsal.Prepared) := ⟨LedgerSession.scripted, LedgerSession.ready, .int 0⟩
    let d : Desk (List Rehearsal.Prepared) := ⟨⟨[], []⟩, KeyManager.empty, []⟩
    let service : Service := ⟨.text "s1", .text "t", .text "https://example.org", .null⟩
    let sender := Value.text (Address.text (Address.ofPoint strayPoint))
    i.controllerKey = .ok controller ∧ controller.type ≠ .secp256k1 ∧
      (∃ c, .call c ∈ (reg.addKey p i (baseKey "k2" .secp256r1) (.record (boundedOptions 1 2)) d).trace.requests ∧
        c.member "from" = sender) ∧
      ∃ c, .call c ∈ (reg.addService p i service (.record (boundedOptions 1 2)) d).trace.requests ∧
        c.member "from" = sender := by
  intro i controller reg p d service sender
  have found : i.controllerKey = .ok controller := stray_found _
  have sent : ∀ c : RpcCall, (∃ r, PublicKey.load controller.publicKeyHex .secp256k1 = .ok r ∧
      c.member "from" = Value.text (Address.text (Address.ofPoint r))) → c.member "from" = sender := by
    rintro c ⟨r, loads, same⟩
    cases stray_loads.symm.trans loads
    exact same
  have fitKey : FitKey reg p i (baseKey "k2" .secp256r1) (.record (boundedOptions 1 2)) d controller :=
    ⟨boundedOptions 1 2, [.authentication], ⟨.int 1, .int 2⟩, ⟨rfl, rfl, rfl, found⟩, rfl,
      ⟨_, load_uncompressed (base_point_holds .secp256r1)⟩, bounded_ready d⟩
  have fitService : FitService reg i (.record (boundedOptions 1 2)) d controller :=
    ⟨boundedOptions 1 2, ⟨rfl, rfl, found⟩, bounded_ready d⟩
  obtain ⟨c, asked, builds⟩ := (add_key_asks reg p _ d found _).asks ⟨fitKey, _, stray_loads⟩
  obtain ⟨c', asked', builds'⟩ := (add_service_asks reg p _ d found service).asks ⟨fitService, _, stray_loads⟩
  exact ⟨found, by decide, ⟨c, asked, sent c (sent_from (add_key_turn reg p i _ _ d) found asked builds)⟩,
    c', asked', sent c' (sent_from (add_service_turn reg p i service _ d) found asked' builds')⟩

end Straying

end EbsiRegistrar
end EbsiDid
