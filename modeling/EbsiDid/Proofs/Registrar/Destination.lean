import EbsiDid.Proofs.Ledger.Discretion
import EbsiDid.Proofs.Ledger.Execution
import EbsiDid.Proofs.Registrar.KeyAddition
import EbsiDid.Proofs.Registrar.Preparation
import EbsiDid.Proofs.Rpc.Address
import EbsiDid.Registrar.Perform
import EbsiDid.Rpc.Rehearsal

set_option autoImplicit false

/-!
Where the requests of an operation go. All of them have one address: that of the client's settings, with the options of
the registrar and those of the call over them.
-/
namespace EbsiDid

namespace Trace

theorem calls_append (a b : Trace) : (a ++ b).calls = a.calls ++ b.calls := List.filterMap_append

theorem calls_lines (log : Log) : calls (log.map Event.line) = [] := by
  rw [calls, List.filterMap_map, List.filterMap_eq_nil_iff]
  intro line _
  rfl

theorem calls_of_requests {t : Trace} {contacts : List Contact} (requested : t.requests = contacts.map Contact.request) :
    t.calls = Contact.calls contacts := by
  have asked : t.calls = t.requests.filterMap fun r => match r with
      | .call c => some c
      | .sign _ _ => none := by
    rw [requests, List.filterMap_filterMap, calls]
    refine List.filterMap_congr fun e _ => ?_
    cases e <;> rfl
  rw [asked, requested, List.filterMap_map, Contact.calls]
  refine List.filterMap_congr fun contact _ => ?_
  cases contact <;> rfl

end Trace

/-! ### Actions with one destination -/

namespace Act

variable {ν σ α β : Type} {net : Network ν} {settings : Settings} {url : String}

-- The client keeps its settings, and each call becomes one request to the address.
structure Directed (net : Network ν) (url : String) (d : Desk (Connection ν × σ)) (ended : Ended (Connection ν × σ) α) :
    Prop where
  settings : ended.desk.outside.1.client.settings = d.outside.1.client.settings
  requests : ∃ requests, Sends net d requests ended.desk ∧
    requests.map HttpRequest.url = ended.trace.calls.map fun _ => url

def DirectedTo (net : Network ν) (settings : Settings) (url : String) (x : Act (Connection ν × σ) α) : Prop :=
  ∀ d, d.outside.1.client.settings = settings → Directed net url d (x d)

theorem directed_quiet {x : Act (Connection ν × σ) α} (apart : ∀ d, (x d).desk.outside.1 = d.outside.1)
    (uncalled : ∀ d, (x d).trace.calls = []) : DirectedTo net settings url x := by
  intro d _
  refine ⟨congrArg (fun c => c.client.settings) (apart d), [], sends_nothing (apart d), ?_⟩
  rw [uncalled d]
  rfl

theorem directed_of_except (r : Except Error α) : DirectedTo (σ := σ) net settings url (ofExcept r) :=
  directed_quiet (fun _ => rfl) fun _ => rfl

theorem directed_pure (a : α) : DirectedTo (σ := σ) net settings url (pure a) := directed_of_except (.ok a)

theorem directed_fail (e : Error) : DirectedTo (σ := σ) (α := α) net settings url (fail e) := directed_of_except (.error e)

theorem directed_draws {x : Act (Connection ν × σ) α} (draws : x.Draws) : DirectedTo net settings url x := by
  refine directed_quiet (fun d => ?_) fun d => ?_
  · rw [(draws d).2]
  · rw [(draws d).1]
    rfl

theorem directed_record {e : Event} (uncalled : Trace.calls [e] = []) : DirectedTo (σ := σ) net settings url (record e) :=
  directed_quiet (fun _ => rfl) fun _ => uncalled

theorem directed_import_key (key : ImportableKey) : DirectedTo (σ := σ) net settings url (importKey key) := by
  refine directed_quiet (fun _ => rfl) fun d => ?_
  change Trace.calls (_ ++ _) = []
  rw [Trace.calls_append, Trace.calls_lines, List.append_nil]
  split <;> rfl

theorem directed_bind {x : Act (Connection ν × σ) α} {f : α → Act (Connection ν × σ) β} (first : DirectedTo net settings url x)
    (rest : ∀ a, DirectedTo net settings url (f a)) : DirectedTo net settings url (x >>= f) := by
  intro d under
  obtain ⟨kept, requests, sends, addressed⟩ := first d under
  cases outcome : (x d).result with
  | error e =>
      rw [bind_of_error outcome]
      exact ⟨kept, requests, sends, addressed⟩
  | ok a =>
      obtain ⟨keptToo, more, sendsMore, addressedToo⟩ := rest a (x d).desk (kept.trans under)
      rw [bind_of_ok outcome]
      refine ⟨keptToo.trans kept, requests ++ more, sends_append sends sendsMore, ?_⟩
      rw [List.map_append, addressed, addressedToo, ← List.map_append, Trace.calls_append]

theorem directed_after {r : Except Error α} {f : α → Act (Connection ν × σ) β}
    (rest : ∀ a, r = .ok a → DirectedTo net settings url (f a)) : DirectedTo net settings url (ofExcept r >>= f) := by
  cases r with
  | error e => exact directed_fail e
  | ok a => exact rest a rfl

end Act

/-! ### Sessions -/

theorem Connection.open_session_settings {ν : Type} (c : Connection ν) :
    c.openSession.2.client.settings = c.client.settings := by
  unfold openSession
  split
  · split <;> rfl
  · rfl

section

variable {ν σ : Type} {net : Network ν} {settings : Settings} {url : String}

-- A call that has parameters, and whose options come to an address.
structure RpcCall.Addresses (settings : Settings) (url : String) (k : RpcCall) : Prop where
  address : ∀ client : RpcClient, client.settings = settings → client.mutateUrl k.apiOpts = .ok url
  params : ∃ items, k.params = .list items

theorem directed_call {k : RpcCall} (addresses : k.Addresses settings url) :
    Act.DirectedTo (σ := σ) net settings url (Act.call (Transport.line net) k) := by
  intro d under
  obtain ⟨items, listed⟩ := addresses.params
  have posted : d.outside.1.posted k = .ok (url, items) := by
    rw [Connection.posted, addresses.address _ under, listed]
    rfl
  have called : d.outside.1.call net k = _ := Connection.call_posted posted
  refine ⟨?_, [d.outside.1.request k url items], ⟨?_, ?_⟩, ?_⟩
  · simp only [Act.call, Transport.line, called]
    exact Connection.open_session_settings _
  · simp only [Act.call, Transport.line, called]
  · simp only [Act.call, Transport.line, called]
    rfl
  · change [url] = (k :: Trace.calls (List.map Event.line _)).map _
    rw [Trace.calls_lines]
    rfl

theorem directed_sign (s : Signer σ) (kid transaction : Value) :
    Act.DirectedTo net settings url (Act.sign s.beside kid transaction) := by
  cases s <;> exact Act.directed_quiet (fun _ => rfl) fun _ => rfl

theorem plays_directed {s : Signer σ} {contacts : List Contact} {d last : Desk (Connection ν × σ)}
    (played : Plays (Transport.line net) s.beside d contacts last) (under : d.outside.1.client.settings = settings)
    (addresses : ∀ k ∈ Contact.calls contacts, k.Addresses settings url) :
    last.outside.1.client.settings = settings ∧ ∃ requests, Sends net d requests last ∧
      requests.map HttpRequest.url = (Contact.calls contacts).map fun _ => url := by
  induction contacts generalizing d with
  | nil =>
      cases played
      exact ⟨under, [], sends_nothing rfl, rfl⟩
  | cons contact rest ih =>
      cases contact with
      | call k answer =>
          have addresses : ∀ other ∈ k :: Contact.calls rest, other.Addresses settings url := addresses
          rw [List.forall_mem_cons] at addresses
          have first : Act.Directed net url d (Act.call (Transport.line net) k d) := directed_call addresses.1 d under
          obtain ⟨kept, here, sends, addressed⟩ := first
          obtain ⟨keptToo, more, sendsMore, addressedToo⟩ := ih played.2 (kept.trans under) addresses.2
          refine ⟨keptToo, here ++ more, sends_append sends sendsMore, ?_⟩
          have calls : (Act.call (Transport.line net) k d).trace.calls = [k] := by
            change k :: Trace.calls (List.map Event.line _) = [k]
            rw [Trace.calls_lines]
          rw [List.map_append, addressed, addressedToo, calls]
          rfl
      | sign kid transaction answer =>
          have first : Act.Directed net url d (Act.sign s.beside kid transaction d) := directed_sign s kid transaction d under
          obtain ⟨kept, here, sends, addressed⟩ := first
          obtain ⟨keptToo, more, sendsMore, addressedToo⟩ := ih played.2 (kept.trans under) addresses
          refine ⟨keptToo, here ++ more, sends_append sends sendsMore, ?_⟩
          have calls : (Act.sign s.beside kid transaction d).trace.calls = [] := by
            rw [Act.sign_trace]
            rfl
          rw [List.map_append, addressed, addressedToo, calls]
          rfl

theorem directed_execute (s : Signer σ) {terms : SessionTerms}
    (address : ∀ client : RpcClient, client.settings = settings → client.mutateUrl terms.apiOpts = .ok url)
    (given : Value) (steps : List WriteStep) :
    Act.DirectedTo net settings url (LedgerSession.execute (Transport.line net) s.beside terms given steps) := by
  intro d under
  by_cases available : given = .null → d.random.rpcIds ≠ []
  · obtain ⟨id, rest, contacts, _, played, requested, session⟩ :=
      LedgerSession.execute_session (Transport.line net) s.beside terms given steps d available
    have addresses : ∀ k ∈ Contact.calls contacts, k.Addresses settings url := by
      intro k member
      obtain ⟨step, _, rfl⟩ | ⟨unsigned, signed, rfl⟩ := LedgerSession.session_calls session member
      · exact ⟨address, _, rfl⟩
      · exact ⟨address, _, rfl⟩
    obtain ⟨kept, requests, ⟨sent, network⟩, addressed⟩ := plays_directed played under addresses
    rw [← Trace.calls_of_requests requested] at addressed
    exact ⟨kept.trans under.symm, requests, ⟨sent, network⟩, addressed⟩
  · rw [Classical.not_imp, not_not] at available
    obtain ⟨rfl, exhausted⟩ := available
    rw [LedgerSession.execute_without_id _ _ _ _ _ exhausted]
    exact ⟨rfl, [], sends_nothing rfl, rfl⟩

end

/-! ### Operations -/

namespace Operation

variable {κ ς : Type}

def options : Operation κ ς → Value
  | .createIdentifier _ _ _ _ options => options
  | .addKey _ _ options => options
  | .addService _ _ options => options
  | .removeKey _ _ options => options
  | .removeService _ _ options => options
  | .updateIdentifier _ _ options => options
  | .deleteIdentifier _ => .null

end Operation

namespace EbsiRegistrar

-- The options for the address among those of a call.
def addressLayer (options : Value) : Record :=
  match optionsOf options with
  | .ok o => Registry.membersOf (o.get "api_opts")
  | .error _ => []

-- The address for the options of the registrar and those of a call.
def addressFor (reg : EbsiRegistrar) (settings : Settings) (options : Value) : String :=
  Registry.addressOver settings [reg.apiOpts, addressLayer options]

theorem address_options_merged {reg : EbsiRegistrar} {o : Record} {apiOpts : Value} (merged : reg.addressOptions o = .ok apiOpts) :
    apiOpts = .record (Registry.merge [reg.apiOpts, Registry.membersOf (o.get "api_opts")]) := by
  rw [addressOptions, Registry.layer_of] at merged
  split at merged <;> cases merged
  rfl

section

variable {ν σ : Type} {net : Network ν} {settings : Settings} {reg : EbsiRegistrar} {options : Value} {o : Record}
  (registrarOnce : reg.apiOpts.keys.Nodup) (callOnce : (addressLayer options).keys.Nodup) (given : optionsOf options = .ok o)

include registrarOnce callOnce given

theorem directed_write (s : Signer σ) (clock kid : Value) (steps : Except Error (List WriteStep)) :
    Act.DirectedTo net settings (reg.addressFor settings options)
      (reg.write ⟨Transport.line net, s.beside, clock⟩ kid o steps) := by
  refine Act.directed_after fun steps _ => Act.directed_after fun apiOpts merged => ?_
  refine directed_execute s ?_ _ steps
  rintro client rfl
  have layered : addressLayer options = Registry.membersOf (o.get "api_opts") := by
    rw [addressLayer, given]
  have once : ∀ layer ∈ [reg.apiOpts, addressLayer options], layer.keys.Nodup :=
    List.forall_mem_cons.mpr ⟨registrarOnce, List.forall_mem_singleton.mpr callOnce⟩
  rw [address_options_merged merged, ← layered]
  exact Registry.address_resolved client once

theorem directed_carry_out (s : Signer σ) (clock nickname : Value) (plan : Plan) :
    Act.DirectedTo net settings (reg.addressFor settings options)
      (reg.carryOut ⟨Transport.line net, s.beside, clock⟩ nickname o plan) := by
  have created : ∀ controller second, Act.DirectedTo (σ := σ) net settings (reg.addressFor settings options)
      (do Act.log .info ("Created " ++ plan.did.display)
          return created plan controller second nickname) := fun controller second =>
    Act.directed_bind (Act.directed_record rfl) fun _ => Act.directed_pure _
  refine Act.directed_bind (Act.directed_import_key _) fun controller => ?_
  refine Act.directed_bind (Act.directed_import_key _) fun second => ?_
  cases executes o with
  | false => exact created controller second
  | true =>
      refine Act.directed_bind (Act.directed_after fun validity _ => ?_) fun _ => created controller second
      exact directed_write registrarOnce callOnce given s clock controller.kid _

end

theorem directed_perform {ν σ : Type} (reg : EbsiRegistrar) (net : Network ν) (s : Signer σ) (clock : Value)
    (settings : Settings) (op : Operation KeyDescriptor Service) (registrarOnce : reg.apiOpts.keys.Nodup)
    (callOnce : (addressLayer op.options).keys.Nodup) :
    Act.DirectedTo net settings (reg.addressFor settings op.options)
      (reg.perform ⟨Transport.line net, s.beside, clock⟩ op) := by
  cases op with
  | createIdentifier method kms nickname choice options =>
      refine Act.directed_bind (Act.directed_after fun o given => ?_) fun i => Act.directed_pure _
      refine Act.directed_bind (Act.directed_draws (plan_draws reg kms choice o)) fun plan => ?_
      exact directed_carry_out registrarOnce callOnce given s clock nickname plan
  | addKey i key options =>
      refine Act.directed_bind (Act.directed_after fun o given => ?_) fun added => Act.directed_pure _
      refine Act.directed_after fun relationships _ => ?_
      cases (o.get "bearer_token").truthy with
      | false => exact Act.directed_fail _
      | true =>
          refine Act.directed_after fun controller _ => ?_
          refine Act.directed_after fun validity _ => ?_
          refine Act.directed_bind (directed_write registrarOnce callOnce given s clock controller.kid _) fun receipts => ?_
          refine Act.directed_bind ?_ fun after => Act.directed_pure (receipts, after)
          exact Act.directed_bind (Act.directed_record rfl) fun _ => Act.directed_pure _
  | addService i service options =>
      refine Act.directed_bind (Act.directed_after fun o given => ?_) fun added => Act.directed_pure _
      cases (o.get "bearer_token").truthy with
      | false => exact Act.directed_fail _
      | true =>
          refine Act.directed_after fun controller _ => ?_
          refine Act.directed_bind (directed_write registrarOnce callOnce given s clock controller.kid _) fun receipts => ?_
          refine Act.directed_bind ?_ fun after => Act.directed_pure (receipts.headD .null, after)
          exact Act.directed_bind (Act.directed_record rfl) fun _ => Act.directed_pure _
  | removeKey i kid options => exact Act.directed_fail _
  | removeService i id options => exact Act.directed_fail _
  | updateIdentifier i document options => exact Act.directed_fail _
  | deleteIdentifier i =>
      refine Act.directed_bind ?_ fun done => Act.directed_pure _
      exact Act.directed_bind (Act.directed_record rfl) fun _ => Act.directed_pure true

-- Each part of the address is the last that is given by the settings, the registrar and the call. It makes no difference
-- that registrar and client merge these layers in two places.
theorem requests_directed {ν σ : Type} (reg : EbsiRegistrar) (net : Network ν) (s : Signer σ) (clock : Value)
    (op : Operation KeyDescriptor Service) (registrarOnce : reg.apiOpts.keys.Nodup)
    (callOnce : (addressLayer op.options).keys.Nodup) :
    (∀ d, Act.Directed net (reg.addressFor d.outside.1.client.settings op.options) d
      (reg.perform ⟨Transport.line net, s.beside, clock⟩ op d)) ∧
    (∀ environment name key, (name, key) ∈ Settings.environmentNames → (Settings.ofEnvironment environment).textAt key =
      match Settings.givenBy environment name with
      | some v => .text v.display
      | none => .null) ∧
    Registry.MergeLaws := by
  refine ⟨?_, ?_, Registry.merge_laws⟩
  · intro d
    exact directed_perform reg net s clock _ op registrarOnce callOnce d rfl
  · intro environment name key named
    exact Settings.environment_text environment named

-- The host is a variable of the environment, the version an option of the registrar that the call leaves as it is.
theorem requests_directed_layered :
    let reg : EbsiRegistrar := ⟨.null, [("environment", .text "test"), ("version", .text "v4")]⟩
    let controller := baseKey "k1" .secp256k1
    let i : Identifier := ⟨.text "did:ebsi:z1", .text "k1", [controller], [], .null, .null⟩
    let service : Service := ⟨.text "s1", .text "LinkedDomains", .text "https://example.org", .null⟩
    let options : Record := [("bearer_token", .text "token"), ("rpc_id", .int 7),
      ("api_opts", .record [("environment", .text "conformance"), ("version", .null)])]
    let op : Operation KeyDescriptor Service := .addService i service (.record options)
    let settings := Settings.ofEnvironment [("EBSI_REGISTRY_HOST", .text "example.org"), ("EBSI_VERSION", .text "v3")]
    let c : Connection Rehearsal.Script := ⟨⟨settings, .null, none, true⟩, [], [], ⟨[], 0⟩⟩
    let d : Desk (Connection Rehearsal.Script × Unit) := ⟨⟨[], []⟩, KeyManager.empty, c, ()⟩
    let p : Partners (Connection Rehearsal.Script × Unit) :=
      ⟨Transport.line Rehearsal.network, Signer.keyManager.beside, .int 0⟩
    reg.apiOpts.keys.Nodup ∧ (addressLayer op.options).keys.Nodup ∧
      Act.Directed Rehearsal.network "https://api-conformance.example.org/did-registry/v4/jsonrpc" d (reg.perform p op d) := by
  intro reg controller i service options op settings c d p
  have registrarOnce : reg.apiOpts.keys.Nodup := by decide
  have callOnce : (addressLayer op.options).keys.Nodup := by decide
  have directed := (requests_directed reg Rehearsal.network (.keyManager : Signer Unit) (.int 0) op registrarOnce callOnce).1 d
  exact ⟨registrarOnce, callOnce, directed⟩

end EbsiRegistrar
end EbsiDid
