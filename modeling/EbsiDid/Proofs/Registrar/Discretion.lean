import EbsiDid.Proofs.Ledger.Discretion
import EbsiDid.Proofs.Registrar.KeyAddition
import EbsiDid.Rpc.Rehearsal

set_option autoImplicit false

/-!
The registrar is discreet about the bearer token. Of the token it only asks whether there is one; the rest
of an operation is the same for any two of them.
-/
namespace EbsiDid

theorem applied_to_carrying (token : Value) (t : Trace) (i : Identifier) : (t.carrying token).appliedTo i = t.appliedTo i := by
  induction t generalizing i with
  | nil => rfl
  | cons event rest ih =>
      cases event with
      | _ => exact ih _

theorem Act.of_except_ok_then {τ α β : Type} (a : α) (f : α → Act τ β) : (Act.ofExcept (.ok a) >>= f) = f a := rfl

namespace EbsiRegistrar

-- Options that differ in nothing but their bearer token, and both have one.
structure Retokened (o o' : Record) : Prop where
  others : ∀ name, name ≠ "bearer_token" → Record.get name o' = Record.get name o
  bearer : (Record.get "bearer_token" o).truthy = true
  bearer' : (Record.get "bearer_token" o').truthy = true

variable {ν ν' σ : Type} {net : Network ν} {net' : Network ν'} {o o' : Record}

theorem address_retokened (reg : EbsiRegistrar) (retokened : Retokened o o') :
    reg.addressOptions o' = reg.addressOptions o := by
  rw [addressOptions, retokened.others "api_opts" (by decide)]
  rfl

theorem interval_retokened (retokened : Retokened o o') (clock : Value) :
    Validity.ofOptions o' clock = Validity.ofOptions o clock := by
  rw [Validity.ofOptions, retokened.others "not_after" (by decide), retokened.others "not_before" (by decide)]
  rfl

theorem executes_retokened (retokened : Retokened o o') : executes o' = executes o := by
  rw [executes, retokened.others "execute_ledger_operation" (by decide)]
  rfl

theorem spec_retokened (retokened : Retokened o o') (kms : Value) (choice : SpecChoice) :
    specFor kms choice o' = specFor kms choice o := by
  have same : specOf choice o' = specOf choice o := by
    cases choice with
    | unfit =>
        rw [specOf, retokened.others "type" (by decide)]
        rfl
    | _ => rfl
  rw [specFor, specFor, executes_retokened retokened, retokened.bearer, retokened.bearer', same]

theorem discreet_write (reg : EbsiRegistrar) (s : Signer σ) (clock kid : Value) (retokened : Retokened o o')
    (steps : Except Error (List WriteStep)) : Act.Discreet net net' (Record.get "bearer_token" o')
      (reg.write ⟨Transport.line net, s.beside, clock⟩ kid o steps)
      (reg.write ⟨Transport.line net', s.beside, clock⟩ kid o' steps) := by
  unfold write
  rw [address_retokened reg retokened, retokened.others "rpc_id" (by decide)]
  refine Act.discreet_bind (Act.discreet_of_except steps) fun steps => ?_
  refine Act.discreet_bind (Act.discreet_of_except _) fun apiOpts => ?_
  exact LedgerSession.discreet_execute s ⟨kid, Record.get "bearer_token" o, apiOpts⟩ _ steps

section Creation

theorem discreet_choose_id {token : Value} (retokened : Retokened o o') (spec : DidSpec) :
    Act.Discreet (σ := σ) net net' token (chooseId o spec) (chooseId o' spec) := by
  unfold chooseId
  rw [retokened.others "method_specific_id" (by decide)]
  split
  · exact Act.discreet_pure _
  · exact Act.discreet_draw _

theorem discreet_importable_key {token : Value} (keyOptions : Value) (type : KeyType) (kms length : Value)
    (isController : Bool) : Act.Discreet (σ := σ) net net' token (importableKey keyOptions type kms length isController)
      (importableKey keyOptions type kms length isController) := by
  refine Act.discreet_bind (Act.discreet_of_except _) fun options => ?_
  refine Act.discreet_bind (Act.discreet_of_except _) fun type => ?_
  refine Act.discreet_bind (Act.discreet_of_except _) fun supplied => ?_
  refine Act.discreet_bind (Act.discreet_draw _) fun digits => ?_
  exact Act.discreet_bind (Act.discreet_of_except _) fun purposes => Act.discreet_pure _

theorem discreet_plan {token : Value} (reg : EbsiRegistrar) (kms : Value) (choice : SpecChoice) (retokened : Retokened o o') :
    Act.Discreet (σ := σ) net net' token (reg.plan kms choice o) (reg.plan kms choice o') := by
  simp only [plan, spec_retokened retokened, retokened.others "secp256k1_key" (by decide),
    retokened.others "secp256r1_key" (by decide)]
  refine Act.discreet_bind (Act.discreet_of_except _) fun spec => ?_
  refine Act.discreet_bind (discreet_choose_id retokened spec) fun id => ?_
  refine Act.discreet_bind (discreet_importable_key _ _ _ _ _) fun controller => ?_
  exact Act.discreet_bind (discreet_importable_key _ _ _ _ _) fun second => Act.discreet_pure _

theorem discreet_register (reg : EbsiRegistrar) (s : Signer σ) (clock : Value) (retokened : Retokened o o') (did : Value)
    (controller second : KeyDescriptor) : Act.Discreet net net' (Record.get "bearer_token" o')
      (reg.register ⟨Transport.line net, s.beside, clock⟩ o did controller second)
      (reg.register ⟨Transport.line net', s.beside, clock⟩ o' did controller second) := by
  unfold register
  rw [interval_retokened retokened, retokened.others "base_document" (by decide)]
  refine Act.discreet_bind (Act.discreet_of_except _) fun validity => ?_
  exact discreet_write reg s clock controller.kid retokened _

theorem discreet_carry_out (reg : EbsiRegistrar) (s : Signer σ) (clock nickname : Value) (retokened : Retokened o o')
    (plan : Plan) : Act.Discreet net net' (Record.get "bearer_token" o')
      (reg.carryOut ⟨Transport.line net, s.beside, clock⟩ nickname o plan)
      (reg.carryOut ⟨Transport.line net', s.beside, clock⟩ nickname o' plan) := by
  unfold carryOut
  rw [executes_retokened retokened]
  refine Act.discreet_bind (Act.discreet_import_key _) fun controller => ?_
  refine Act.discreet_bind (Act.discreet_import_key _) fun second => ?_
  cases executes o with
  | false => exact Act.discreet_bind (Act.discreet_log _ _) fun _ => Act.discreet_pure _
  | true =>
      refine Act.discreet_bind (discreet_register reg s clock retokened plan.did controller second) fun _ => ?_
      exact Act.discreet_bind (Act.discreet_log _ _) fun _ => Act.discreet_pure _

end Creation

section Operations

variable {options options' : Value} (given : optionsOf options = .ok o) (given' : optionsOf options' = .ok o')
  (retokened : Retokened o o')

include given given' retokened

theorem discreet_create (reg : EbsiRegistrar) (s : Signer σ) (clock kms nickname : Value) (choice : SpecChoice) :
    Act.Discreet net net' (Record.get "bearer_token" o')
      (reg.createIdentifier ⟨Transport.line net, s.beside, clock⟩ kms nickname choice options)
      (reg.createIdentifier ⟨Transport.line net', s.beside, clock⟩ kms nickname choice options') := by
  simp only [createIdentifier, given, given', Act.of_except_ok_then]
  refine Act.discreet_bind (discreet_plan reg kms choice retokened) fun plan => ?_
  exact discreet_carry_out reg s clock nickname retokened plan

theorem discreet_add_key (reg : EbsiRegistrar) (s : Signer σ) (clock : Value) (i : Identifier) (key : KeyDescriptor) :
    Act.Discreet net net' (Record.get "bearer_token" o')
      (reg.addKey ⟨Transport.line net, s.beside, clock⟩ i key options)
      (reg.addKey ⟨Transport.line net', s.beside, clock⟩ i key options') := by
  simp only [addKey, given, given', Act.of_except_ok_then, retokened.bearer, retokened.bearer',
    retokened.others "vm_relationships" (by decide), interval_retokened retokened]
  refine Act.discreet_bind (Act.discreet_of_except _) fun relationships => ?_
  refine Act.discreet_bind (Act.discreet_of_except _) fun controller => ?_
  refine Act.discreet_bind (Act.discreet_of_except _) fun validity => ?_
  refine Act.discreet_bind (discreet_write reg s clock controller.kid retokened _) fun receipts => ?_
  refine Act.discreet_bind ?_ fun after => Act.discreet_pure (receipts, after)
  exact Act.discreet_bind (Act.discreet_record rfl) fun _ => Act.discreet_pure _

theorem discreet_add_service (reg : EbsiRegistrar) (s : Signer σ) (clock : Value) (i : Identifier) (service : Service) :
    Act.Discreet net net' (Record.get "bearer_token" o')
      (reg.addService ⟨Transport.line net, s.beside, clock⟩ i service options)
      (reg.addService ⟨Transport.line net', s.beside, clock⟩ i service options') := by
  simp only [addService, given, given', Act.of_except_ok_then, retokened.bearer, retokened.bearer']
  refine Act.discreet_bind (Act.discreet_of_except _) fun controller => ?_
  refine Act.discreet_bind (discreet_write reg s clock controller.kid retokened _) fun receipts => ?_
  refine Act.discreet_bind ?_ fun after => Act.discreet_pure (receipts.headD .null, after)
  exact Act.discreet_bind (Act.discreet_record rfl) fun _ => Act.discreet_pure _

end Operations

-- What two runs come to that differ in the token: the same to all but the network, which is sent the same
-- requests with the other token in their headers.
structure Untold {α : Type} (net' : Network ν') (token : Value) (requests : List HttpRequest)
    (d' : Desk (Connection ν' × σ)) (first : Ended (Connection ν × σ) α) (second : Ended (Connection ν' × σ) α) : Prop
    extends Unaltered net' token requests d' first second where
  log : second.trace.log = first.trace.log
  appended : ∀ i, second.trace.appliedTo i = first.trace.appliedTo i

def Concealed {α : Type} (net : Network ν) (net' : Network ν') (token : Value) (x : Act (Connection ν × σ) α)
    (y : Act (Connection ν' × σ) α) : Prop :=
  ∀ d d', d.Alike d' → ∃ requests, Sends net d requests (x d).desk ∧
    (Network.Alike net net' token requests d.outside.1.network d'.outside.1.network →
      Untold net' token requests d' (x d) (y d'))

theorem concealed_of_discreet {α : Type} {token : Value} {x : Act (Connection ν × σ) α} {y : Act (Connection ν' × σ) α}
    (discreet : Act.Discreet net net' token x y) : Concealed net net' token x y := by
  intro d d' alike
  obtain ⟨requests, sends, unaltered⟩ := discreet d
  refine ⟨requests, sends, ?_⟩
  intro answered
  have same := unaltered d' alike answered
  refine ⟨same, ?_, ?_⟩
  · rw [same.trace, Trace.log_carrying]
  · intro i
    rw [same.trace, applied_to_carrying]

theorem token_concealed (reg : EbsiRegistrar) (net : Network ν) (net' : Network ν') (s : Signer σ) (clock : Value)
    {options options' : Value} {o o' : Record} (given : optionsOf options = .ok o) (given' : optionsOf options' = .ok o')
    (retokened : Retokened o o') :
    let p : Partners (Connection ν × σ) := ⟨Transport.line net, s.beside, clock⟩
    let p' : Partners (Connection ν' × σ) := ⟨Transport.line net', s.beside, clock⟩
    let token := Record.get "bearer_token" o'
    (∀ kms nickname choice, Concealed net net' token (reg.createIdentifier p kms nickname choice options)
      (reg.createIdentifier p' kms nickname choice options')) ∧
    (∀ i key, Concealed net net' token (reg.addKey p i key options) (reg.addKey p' i key options')) ∧
    ∀ i service, Concealed net net' token (reg.addService p i service options) (reg.addService p' i service options') := by
  intro p p' token
  refine ⟨?_, ?_, ?_⟩
  · intro kms nickname choice
    exact concealed_of_discreet (discreet_create given given' retokened reg s clock kms nickname choice)
  · intro i key
    exact concealed_of_discreet (discreet_add_key given given' retokened reg s clock i key)
  · intro i service
    exact concealed_of_discreet (discreet_add_service given given' retokened reg s clock i service)

theorem rehearsal_unseen (token : Value) (request : HttpRequest) (script : Rehearsal.Script) :
    Rehearsal.network.exchange (request.carrying token) script = Rehearsal.network.exchange request script := by
  obtain ⟨exchanges, served⟩ := script
  cases exchanges <;> rfl

-- The rehearsed network never looks at a header.
theorem token_concealed_registering :
    let reg : EbsiRegistrar := ⟨.null, []⟩
    let controller := baseKey "k1" .secp256k1
    let i : Identifier := ⟨.text "did:ebsi:z1", .text "k1", [controller], [], .null, .null⟩
    let service : Service := ⟨.text "s1", .text "LinkedDomains", .text "https://example.org", .null⟩
    let options : String → Record := fun token => [("bearer_token", .text token), ("rpc_id", .int 7)]
    let c : Connection Rehearsal.Script := ⟨⟨Settings.empty, .null, none, true⟩, [], [], ⟨[], 0⟩⟩
    let d : Desk (Connection Rehearsal.Script × Unit) := ⟨⟨[], []⟩, KeyManager.empty, c, ()⟩
    let p : Partners (Connection Rehearsal.Script × Unit) :=
      ⟨Transport.line Rehearsal.network, Signer.keyManager.beside, .int 0⟩
    let run := fun token => reg.addService p i service (.record (options token)) d
    ∃ requests, Sends Rehearsal.network d requests (run "first").desk ∧
      Untold Rehearsal.network (.text "second") requests d (run "first") (run "second") := by
  intro reg controller i service options c d p run
  have retokened : Retokened (options "first") (options "second") := by
    refine ⟨?_, rfl, rfl⟩
    intro name other
    simp only [Record.get, options, Record.get?, if_neg (Ne.symm other)]
  have concealed := (token_concealed reg Rehearsal.network Rehearsal.network (.keyManager : Signer Unit) (.int 0)
    (show optionsOf (.record (options "first")) = .ok (options "first") from rfl)
    (show optionsOf (.record (options "second")) = .ok (options "second") from rfl) retokened).2.2 i service
  obtain ⟨requests, sends, untold⟩ := concealed d d ⟨rfl, rfl, rfl, rfl, rfl⟩
  exact ⟨requests, sends, untold (Network.alike_of_unseen (rehearsal_unseen _) requests _)⟩

end EbsiRegistrar
end EbsiDid
