import EbsiDid.Proofs.Registrar.Custody
import EbsiDid.Proofs.Registrar.Naming

set_option autoImplicit false

/-!
The DIDs of new identifiers as addresses. A directory finds the registrar again if the DID is read as one of EBSI; of
the kind that is described and of an id that is given, nothing makes sure of that.
-/
namespace EbsiDid

namespace Did

-- A DID of EBSI, as it is spelt.
def SpellsEbsi (text : String) : Prop := ∃ rest, text = "did:ebsi:" ++ rest ∧ isId (dropNewline rest.toList) = true

theorem ebsi_iff {text : String} : (∃ id, parse? text = some ⟨"ebsi", id⟩) ↔ SpellsEbsi text := by
  constructor
  · rintro ⟨id, read⟩
    obtain ⟨rest, rfl, fits, _⟩ := (parse_iff.mp read).parts
    exact ⟨rest, rfl, fits⟩
  · rintro ⟨rest, rfl, fits⟩
    exact ⟨_, parse_iff.mpr (spells_ebsi fits)⟩

end Did

namespace Directory

-- Where a registrar of EBSI is registered, every operation on the DID goes to it.
def Finds (did : Value) : Prop :=
  ∀ {ρ κ ς : Type} (d after : Directory ρ) (r : ρ) (op : Operation κ ς), d.register (.text "ebsi") r = .ok after →
    op.target = (.null, did) → after.dispatch op = .ok (r, op)

theorem registrar_for_unparsed {ρ : Type} (d : Directory ρ) {did : String} (unread : Did.parse? did = none) :
    d.registrarFor .null (.text did) = .error (if did = "" then .methodNorDid else .didNotParsed did) := by
  have none_given : Value.null.truthy = false := rfl
  by_cases empty : did = ""
  · subst empty
    rfl
  · have given : (Value.text did).truthy = true := decide_eq_true empty
    rw [if_neg empty]
    simp only [registrarFor, none_given, given, methodOf, Did.ofValue, unread]
    rfl

theorem found_alone {method : String} (found : ((empty : Directory Unit).put (.text "ebsi") ()).lookup (.text method) = .ok ()) :
    method = "ebsi" := by
  have fit (name : String) : (Value.text name).hashable = true := rfl
  rw [lookup, if_pos (fit method), put, Entries.get_put (fit "ebsi") (fit method)] at found
  cases same : (Value.text "ebsi").alike (.text method) with
  | true => exact (Value.text.inj (Value.alike_text same)).symm
  | false =>
      rw [same] at found
      cases found

theorem finds_iff (text : String) : Finds (.text text) ↔ Did.SpellsEbsi text := by
  rw [← Did.ebsi_iff]
  constructor
  · intro finds
    -- The directory with nothing but one registrar of EBSI, asked to delete an identifier of this DID.
    let i : Identifier := ⟨.text text, .null, [], [], .null, .null⟩
    have registered : (empty : Directory Unit).register (.text "ebsi") () = .ok (empty.put (.text "ebsi") ()) := rfl
    have dispatched := finds empty _ () (Operation.deleteIdentifier i : Operation Unit Unit) registered rfl
    have found : (empty.put (.text "ebsi") ()).registrarFor .null (.text text) = .ok () := by
      change Except.map _ ((empty.put (.text "ebsi") ()).registrarFor .null (.text text)) = _ at dispatched
      cases outcome : (empty.put (.text "ebsi") ()).registrarFor .null (.text text) with
      | ok r => rfl
      | error e =>
          rw [outcome] at dispatched
          cases dispatched
    cases read : Did.parse? text with
    | none =>
        rw [registrar_for_unparsed _ read] at found
        cases found
    | some did =>
        rw [registrar_for_parsed _ read] at found
        have ebsi := found_alone found
        obtain ⟨method, id⟩ := did
        cases ebsi
        exact ⟨id, rfl⟩
  · rintro ⟨id, read⟩
    intro ρ κ ς d after r op registered target
    have found : after.registrarFor op.target.1 op.target.2 = .ok r := by
      rw [target, registrar_for_parsed after read]
      exact lookup_registered registered
    rw [dispatch, found]
    rfl

end Directory

namespace EbsiRegistrar

variable {τ : Type}

-- The DID of a new identifier, by the kind and the id that it has, and what becomes of operations on it.
structure Addressed (r : RandomStream) (o : Record) (spec : DidSpec) (id : String) (did : Value) : Prop where
  text : did = .text (spec.method.display ++ id)
  given : (o.get "method_specific_id").truthy = true → id = (o.get "method_specific_id").display
  drawn : (o.get "method_specific_id").truthy = false → (r.ebsiMethodSpecificId spec).1 = .ok id
  read : (∃ inner, Did.parse? (spec.method.display ++ id) = some ⟨"ebsi", inner⟩) ↔ Did.SpellsEbsi (spec.method.display ++ id)
  found : Directory.Finds did ↔ Did.SpellsEbsi (spec.method.display ++ id)
  usual : spec.method = .text "did:ebsi:" → (Directory.Finds did ↔ Did.isId (Did.dropNewline id.toList) = true)
  fresh : spec.method = .text "did:ebsi:" → (o.get "method_specific_id").truthy = false → Directory.Finds did
  natural : spec.method = .text "did:key:" → ¬ Directory.Finds did

theorem spells_usual (id : String) : Did.SpellsEbsi ("did:ebsi:" ++ id) ↔ Did.isId (Did.dropNewline id.toList) = true := by
  constructor
  · rintro ⟨rest, same, fits⟩
    have chars := congrArg String.toList same
    rw [String.toList_append, String.toList_append] at chars
    rw [List.append_cancel_left chars]
    exact fits
  · intro fits
    exact ⟨id, rfl, fits⟩

theorem key_unspelt (id : String) : ¬ Did.SpellsEbsi ("did:key:" ++ id) := by
  rintro ⟨rest, same, _⟩
  have chars := congrArg String.toList same
  rw [String.toList_append, String.toList_append] at chars
  cases chars

-- What a drawn id is made of, and what is left of the stream then.
theorem drawn_id_encodes {r : RandomStream} {spec : DidSpec} {id : String} (drawn : (r.ebsiMethodSpecificId spec).1 = .ok id) :
    ∃ front bytes, versionBytes spec.version = .ok front ∧ (r.takeBytes spec.idLength).1 = .ok bytes ∧
      id = multibaseMark ++ Base58.encode (front ++ bytes) ∧
      (r.ebsiMethodSpecificId spec).2 = (r.takeBytes spec.idLength).2 := by
  rw [RandomStream.ebsiMethodSpecificId, RandomStream.methodSpecificId] at drawn ⊢
  cases versioned : versionBytes spec.version with
  | error e =>
      rw [versioned] at drawn
      cases drawn
  | ok front =>
      rw [versioned] at drawn
      cases taken : (r.takeBytes spec.idLength).1 with
      | error e =>
          simp only [taken] at drawn
          cases drawn
      | ok bytes =>
          simp only [taken] at drawn
          cases drawn
          exact ⟨front, bytes, rfl, rfl, rfl, rfl⟩

theorem drawn_id_fits {r : RandomStream} {spec : DidSpec} {id : String} (drawn : (r.ebsiMethodSpecificId spec).1 = .ok id) :
    Did.isId (Did.dropNewline id.toList) = true := by
  obtain ⟨front, bytes, _, _, rfl, _⟩ := drawn_id_encodes drawn
  have alphanumeric := (names_encoded (front ++ bytes)).alphanumeric
  have nonempty : (multibaseMark ++ Base58.encode (front ++ bytes)).toList ≠ [] := by
    rw [String.toList_append]
    exact List.cons_ne_nil _ _
  rw [Did.newline_kept alphanumeric]
  exact Did.alphanumeric_is_id alphanumeric nonempty

theorem addressed {r : RandomStream} {o : Record} {spec : DidSpec} {id : String}
    (given : (o.get "method_specific_id").truthy = true → id = (o.get "method_specific_id").display)
    (drawn : (o.get "method_specific_id").truthy = false → (r.ebsiMethodSpecificId spec).1 = .ok id) :
    Addressed r o spec id (.text (spec.method.display ++ id)) := by
  have usual : spec.method = .text "did:ebsi:" →
      (Directory.Finds (.text (spec.method.display ++ id)) ↔ Did.isId (Did.dropNewline id.toList) = true) := by
    intro method
    rw [method, Directory.finds_iff]
    exact spells_usual id
  refine ⟨rfl, given, drawn, Did.ebsi_iff, Directory.finds_iff _, usual, ?_, ?_⟩
  · intro method absent
    exact (usual method).mpr (drawn_id_fits (drawn absent))
  · intro method
    rw [method, Directory.finds_iff]
    exact key_unspelt id

theorem id_taken {o : Record} {spec : DidSpec} {d : Desk τ} {id : String} (chosen : (chooseId o spec d).result = .ok id) :
    ((o.get "method_specific_id").truthy = true → id = (o.get "method_specific_id").display) ∧
      ((o.get "method_specific_id").truthy = false → (d.random.ebsiMethodSpecificId spec).1 = .ok id) := by
  rw [chooseId] at chosen
  split at chosen
  · rename_i present
    cases chosen
    exact ⟨fun _ => rfl, fun absent => absurd (present.symm.trans absent) (by decide)⟩
  · rename_i absent
    exact ⟨fun present => absurd present absent, fun _ => chosen⟩

-- The operations on a new identifier find the registrar again if and only if its DID is spelt as one of EBSI. That is so
-- whenever its kind has the method of EBSI and its id is drawn; of a given id and of another method it need not be so.
theorem created_addressed {reg : EbsiRegistrar} {p : Partners τ} {kms nickname : Value} {choice : SpecChoice}
    {options : Value} {d : Desk τ} {i : Identifier}
    (made : (reg.createIdentifier p kms nickname choice options d).result = .ok i) :
    ∃ o spec id, optionsOf options = .ok o ∧ specOf choice o = some spec ∧ DidSpec.key.alike spec = false ∧
      Addressed d.random o spec id i.did := by
  obtain ⟨o, plan, controller, second, controllerText, secondText, prepared, rfl⟩ := created_prepared made
  obtain ⟨spec, specified, planned⟩ := Act.bind_ok_inv prepared.planned
  obtain ⟨id, chosen, planned⟩ := Act.bind_ok_inv planned
  obtain ⟨_, _, planned⟩ := Act.bind_ok_inv planned
  obtain ⟨_, _, planned⟩ := Act.bind_ok_inv planned
  cases planned
  obtain ⟨_, legal, _, described⟩ := spec_taken specified
  obtain ⟨given, drawn⟩ := id_taken chosen
  rw [described] at legal
  exact ⟨o, spec, id, prepared.options, described, legal, addressed given drawn⟩

theorem created_addressed_given :
    let reg : EbsiRegistrar := ⟨.null, []⟩
    let p : Partners (List Rehearsal.Prepared) := ⟨LedgerSession.scripted, .keyManager, .int 0⟩
    let d : Desk (List Rehearsal.Prepared) := ⟨⟨[], []⟩, KeyManager.empty, []⟩
    let options : Value := .record (chosenOptions "k1" "k2" false)
    ∃ i, (reg.createIdentifier p (.text "local") .null .usual options d).result = .ok i ∧
      ∃ o spec id, optionsOf options = .ok o ∧ specOf .usual o = some spec ∧ DidSpec.key.alike spec = false ∧
        Addressed d.random o spec id i.did := by
  intro reg p d options
  have prepared := chosen_prepared reg (by decide : "k1" ≠ "") (by decide : "k2" ≠ "") false d
  have finished := create_finished reg p (.text "local") .null .usual _ d prepared
  exact ⟨_, (finished.unwritten rfl).1, created_addressed (finished.unwritten rfl).1⟩

/-! ### Identifiers that lead nowhere -/

def namedOptions (id : String) : Record :=
  [("method_specific_id", .text id), ("secp256k1_key", chosenKey "k1"), ("secp256r1_key", chosenKey "k2")]

def namedPlan (did : String) : Plan :=
  ⟨.text did, chosenMaterial "k1" .secp256k1 true, chosenMaterial "k2" .secp256r1 false⟩

theorem named_created (reg : EbsiRegistrar) (p : Partners τ) {choice : SpecChoice} {spec : DidSpec} {id : String} (d : Desk τ)
    (specified : specFor ((Value.text "local").orElse reg.defaultKms) choice (namedOptions id) = .ok spec)
    (length : spec.keyLength = .int 32) (named : id ≠ "") :
    (reg.createIdentifier p (.text "local") .null choice (.record (namedOptions id)) d).result =
      .ok (created (namedPlan (spec.method.display ++ id)) (chosenDescriptor "k1" .secp256k1 true)
        (chosenDescriptor "k2" .secp256r1 false) .null) := by
  have chosen : chooseId (namedOptions id) spec d = ⟨.ok id, [], d⟩ := by
    have present : (Record.get "method_specific_id" (namedOptions id)).truthy = true := decide_eq_true named
    rw [chooseId, if_pos present]
    rfl
  have controllerMade := chosen_key_made "k1" .secp256k1 true (fun _ => rfl) d
  have secondMade := chosen_key_made "k2" .secp256r1 false nofun d
  rw [← length] at controllerMade secondMade
  have planned : reg.plan (.text "local") choice (namedOptions id) d = ⟨.ok (namedPlan (spec.method.display ++ id)), [], d⟩ :=
    plan_of_parts specified chosen controllerMade secondMade
  have prepared : Prepared reg (.text "local") choice (.record (namedOptions id)) d (namedOptions id)
      (namedPlan (spec.method.display ++ id)) (chosenDescriptor "k1" .secp256k1 true) (chosenDescriptor "k2" .secp256r1 false)
      oneText oneText :=
    ⟨rfl, congrArg Ended.result planned, chosen_key_derives (by decide) .secp256k1 true,
      chosen_key_derives (by decide) .secp256r1 false⟩
  exact ((create_finished reg p (.text "local") .null choice _ d prepared).unwritten rfl).1

-- A natural person of a version, which is not wholly the kind that is refused, and an id that is none.
theorem stray_identifiers :
    let reg : EbsiRegistrar := ⟨.null, []⟩
    let p : Partners (List Rehearsal.Prepared) := ⟨LedgerSession.scripted, .keyManager, .int 0⟩
    let d : Desk (List Rehearsal.Prepared) := ⟨⟨[], []⟩, KeyManager.empty, []⟩
    let directory : Directory EbsiRegistrar := Directory.empty.put (.text "ebsi") reg
    let delete (i : Identifier) : Operation KeyDescriptor Service := .deleteIdentifier i
    let natural : DidSpec := ⟨.text "Natural Person", .text "did:key:", .int 1, .null, .null⟩
    (∃ i, (reg.createIdentifier p (.text "local") .null (.described natural) (.record (namedOptions "z1")) d).result = .ok i ∧
      i.did = .text "did:key:z1" ∧ (directory.dispatch (delete i)).map Prod.fst = .error (.noRegistrar "key")) ∧
    ∃ i, (reg.createIdentifier p (.text "local") .null .usual (.record (namedOptions "not an id")) d).result = .ok i ∧
      i.did = .text "did:ebsi:not an id" ∧
        (directory.dispatch (delete i)).map Prod.fst = .error (.didNotParsed "did:ebsi:not an id") := by
  intro reg p d directory delete natural
  constructor
  · have read : Did.parse? "did:key:z1" = some ⟨"key", "z1"⟩ := by decide +kernel
    have unknown : directory.registrarFor .null (.text "did:key:z1") = .error (.noRegistrar "key") := by
      rw [Directory.registrar_for_parsed directory read]
      rfl
    refine ⟨_, named_created reg p d rfl rfl (by decide), rfl, ?_⟩
    change ((directory.registrarFor .null (.text "did:key:z1")).map _).map Prod.fst = _
    rw [unknown]
    rfl
  · exact ⟨_, named_created reg p d rfl rfl (by decide), rfl, rfl⟩

end EbsiRegistrar
end EbsiDid
