import EbsiDid.Proofs.Registrar.Naming
import EbsiDid.Proofs.Rpc.Address
import EbsiDid.Registrar.Setup

set_option autoImplicit false

/-!
What setting up leaves behind. When it returns, the registrar is entered with the parts that are bound, or there was
nothing to do; when it raises, all is as before but for a client that it made itself and bound on the way.
-/
namespace EbsiDid

namespace Context

variable {κ ι : Type} [DecidableEq κ]

end Context

namespace Setup

abbrev Bindings := Context Role Instance

variable {s : Scene} {c bound : Bindings} {fresh : Nat} {transport : Instance} {e : Error}

def Scene.registry (s : Scene) : Instance := held s.context .directory

def Scene.Disabled (s : Scene) : Prop :=
  ∃ v, s.context.settings.getBool [.text "ledger.disabled"] (.bool false) = .ok v ∧ v.truthy = true

/-! ### Look-ups -/

-- The client that is used, and the bindings then.
inductive Supplied (c : Bindings) (fresh : Nat) : Instance → Bindings → Prop where
  | bound : (held c .transport).counts = true → Supplied c fresh (held c .transport) c
  | made {client : RpcClient} : (held c .transport).counts = false →
      RpcClient.create c.settings .null none = .ok client →
      Supplied c fresh (.transport fresh client) (c.bind .transport (.transport fresh client))

-- Nothing but the client's own binding changes.
structure Kept (c bound : Bindings) (transport : Instance) : Prop where
  settings : bound.settings = c.settings
  others : ∀ role, role ≠ .transport → bound.bound? role = c.bound? role
  client : held bound .transport = transport

-- What is wrong with the parts, in the order in which they are used.
inductive Unfit (c : Bindings) (registry : Instance) : Error → Prop where
  | signer {e : Error} : inject c .signer = .error e → Unfit c registry e
  | keyManager {signer : Instance} {e : Error} : inject c .signer = .ok signer → inject c .keyManager = .error e →
      Unfit c registry e
  | registry {signer keyManager : Instance} : inject c .signer = .ok signer → inject c .keyManager = .ok keyManager →
      (∀ id, registry ≠ .directory id) → Unfit c registry .missingAttribute

def assembled (s : Scene) (transport signer keyManager : Instance) : Assembled :=
  ⟨transport, signer, keyManager, ⟨s.context.settings.textAt "ebsi.default_kms", []⟩⟩

def entered (s : Scene) (id : Nat) (parts : Assembled) : Nat → Directory Assembled :=
  fun n => if n = id then (s.directories n).put (.text "ebsi") parts else s.directories n

inductive Ends (s : Scene) (fresh : Nat) : Reply Unit × Scene → Prop where
  | absent : s.registry.counts = false →
      Ends s fresh (⟨.ok (), [⟨.warning, "No DID registrar Registry instance found in context"⟩]⟩, s)
  | disabled : s.registry.counts = true → s.Disabled →
      Ends s fresh (⟨.ok (), [⟨.warning, "Ledger is not configured, not loading EbsiDIDRegistrar"⟩]⟩, s)
  | clientless {e : Error} : s.registry.counts = true → ¬ s.Disabled → (held s.context .transport).counts = false →
      RpcClient.create s.context.settings .null none = .error e → Ends s fresh (.silent (.error e), s)
  | unfit {transport : Instance} {bound : Bindings} {e : Error} : s.registry.counts = true → ¬ s.Disabled →
      Supplied s.context fresh transport bound → Unfit s.context s.registry e →
      Ends s fresh (.silent (.error e), ⟨bound, s.directories⟩)
  | registered {id : Nat} {transport signer keyManager : Instance} {bound : Bindings} : s.registry = .directory id →
      ¬ s.Disabled → Supplied s.context fresh transport bound → inject s.context .signer = .ok signer →
      inject s.context .keyManager = .ok keyManager →
      Ends s fresh (.silent (.ok ()), ⟨bound, entered s id (assembled s transport signer keyManager)⟩)

end Setup
end EbsiDid
