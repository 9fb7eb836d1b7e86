import EbsiDid.Registrar.Directory
import EbsiDid.Registrar.Ebsi
import EbsiDid.Settings.Context

set_option autoImplicit false

/-!
Setting up the `did:ebsi` registrar in a context: a directory has to be bound, the registry's client
is made and bound if there is none, and signer and key manager have to be bound. What is bound to a
class can be anything; only signer and key manager are looked at for what they are.
-/
namespace EbsiDid.Setup

/-- The classes under which the parts are bound. -/
inductive Role where
  | directory
  | transport
  | signer
  | keyManager
deriving DecidableEq, Repr

def Role.name : Role → String
  | .directory => "DIDRegistrars"
  | .transport => "EbsiRpcClient"
  | .signer => "BaseTransactionSigner"
  | .keyManager => "BaseKeyManager"

/-- What is bound: nothing, a directory, a client of the registry, or anything else, which may sign,
keep keys, and count as true. Each is one of many. -/
inductive Instance where
  | nothing
  | directory (id : Nat)
  | transport (id : Nat) (client : RpcClient)
  | other (id : Nat) (signs keepsKeys counts : Bool)

namespace Instance

def isNothing : Instance → Bool
  | .nothing => true
  | _ => false

def isA (i : Instance) (role : Role) : Bool :=
  match i, role with
  | .directory _, .directory => true
  | .transport _ _, .transport => true
  | .other _ signs _ _, .signer => signs
  | .other _ _ keepsKeys _, .keyManager => keepsKeys
  | _, _ => false

def counts : Instance → Bool
  | .nothing => false
  | .other _ _ _ counts => counts
  | _ => true

def id? : Instance → Option Nat
  | .nothing => none
  | .directory id => some id
  | .transport id _ => some id
  | .other id _ _ _ => some id

end Instance

/-- The registrar with the parts that it was given. -/
structure Assembled where
  transport : Instance
  signer : Instance
  keyManager : Instance
  registrar : EbsiRegistrar

/-- A context, and the directories that there are. -/
structure Scene where
  context : Context Role Instance
  directories : Nat → Directory Assembled

def held (c : Context Role Instance) (role : Role) : Instance := (c.bound? role).getD .nothing

def inject (c : Context Role Instance) (role : Role) : Except Error Instance :=
  c.inject Role.name Instance.isNothing Instance.isA (some role)

/-- The client that is bound, or a new one of the given number, which is bound then. -/
def transportIn (c : Context Role Instance) (fresh : Nat) : Except Error (Instance × Context Role Instance) :=
  let transport := held c .transport
  if transport.counts then .ok (transport, c)
  else do
    let client ← RpcClient.create c.settings .null none
    let made := Instance.transport fresh client
    return (made, c.bind .transport made)

/-- The registrar made of the parts in a context. -/
def assemble (c : Context Role Instance) (transport : Instance) : Except Error Assembled := do
  let signer ← inject c .signer
  let keyManager ← inject c .keyManager
  let kms ← c.settings.getText [.text "ebsi.default_kms"] .null
  return ⟨transport, signer, keyManager, ⟨kms, []⟩⟩

/-- Registers the registrar. What is no directory cannot do that. -/
def enter (directories : Nat → Directory Assembled) (registry : Instance) (parts : Assembled) :
    Except Error (Nat → Directory Assembled) :=
  match registry with
  | .directory id =>
      .ok fun n => if n = id then (directories n).put (.text "ebsi") parts else directories n
  | _ => .error .missingAttribute

/-- Sets the registrar up. A client that was bound on the way stays bound even if a part is missing. -/
def run (s : Scene) (fresh : Nat) : Reply Unit × Scene :=
  let registry := held s.context .directory
  if !registry.counts then
    (⟨.ok (), [⟨.warning, "No DID registrar Registry instance found in context"⟩]⟩, s)
  else
    match s.context.settings.getBool [.text "ledger.disabled"] (.bool false) with
    | .error e => (.silent (.error e), s)
    | .ok disabled =>
        if disabled.truthy then
          (⟨.ok (), [⟨.warning, "Ledger is not configured, not loading EbsiDIDRegistrar"⟩]⟩, s)
        else
          match transportIn s.context fresh with
          | .error e => (.silent (.error e), s)
          | .ok (transport, bound) =>
              match assemble bound transport >>= enter s.directories registry with
              | .error e => (.silent (.error e), ⟨bound, s.directories⟩)
              | .ok entered => (.silent (.ok ()), ⟨bound, entered⟩)

end EbsiDid.Setup
