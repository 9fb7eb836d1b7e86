import EbsiDid.Proofs.Ledger.Execution
import EbsiDid.Proofs.Wallet.KeyManager

set_option autoImplicit false

/-!
Actions that object to nothing, that is, never end in a validation error. Imports are among them, and so are sessions
as long as the transport raises none of its own.
-/
namespace EbsiDid

-- An error objects if it is a validation error.
def Error.objects (e : Error) : Bool := e.kind.isA .validation

/-! ### Actions that object to nothing -/

namespace Act

variable {τ α β : Type}

def Accepts (x : Act τ α) : Prop := ∀ d e, (x d).result = .error e → e.objects = false

theorem accepts_pure (a : α) : Accepts (pure a : Act τ α) := nofun

theorem accepts_of_except {r : Except Error α} (inner : ∀ e, r = .error e → e.objects = false) :
    Accepts (ofExcept r : Act τ α) := fun _ e failed => inner e failed

theorem accepts_log (level : Level) (text : String) : Accepts (log level text : Act τ Unit) := nofun

-- The second action need accept only what the first can end in.
theorem accepts_bind {x : Act τ α} {f : α → Act τ β} (first : Accepts x)
    (rest : ∀ a, (∃ d, (x d).result = .ok a) → Accepts (f a)) : Accepts (x >>= f) := by
  intro d e failed
  cases outcome : (x d).result with
  | error cause =>
      rw [bind_of_error outcome] at failed
      cases failed
      exact first d _ outcome
  | ok a =>
      rw [bind_of_ok outcome] at failed
      exact rest a ⟨d, outcome⟩ (x d).desk e failed

theorem import_key_error {m : KeyManager} {key : ImportableKey} {e : Error}
    (failed : (m.importKey key).1.result = .error e) : e.objects = false := by
  unfold KeyManager.importKey at failed
  split at failed
  · dsimp only at failed
    split at failed
    · cases failed
      rfl
    · split at failed
      · cases failed
      · cases failed
        rfl
  · cases failed
    rfl

theorem accepts_import_key (key : ImportableKey) : Accepts (importKey key : Act τ KeyDescriptor) :=
  fun _ _ failed => import_key_error failed

theorem imported_derives {key : ImportableKey} {k : KeyDescriptor} {d : Desk τ} (imported : (importKey key d).result = .ok k) :
    ∃ text, KeyManager.Derives key k text := by
  by_cases derives : ∃ k text, KeyManager.Derives key k text
  · obtain ⟨other, text, derives⟩ := derives
    have run : (importKey key d).result = .ok other := by
      change (d.keys.importKey key).1.result = .ok other
      rw [KeyManager.import_key_derived derives]
    rw [run] at imported
    cases imported
    exact ⟨text, derives⟩
  · obtain ⟨e, refused⟩ := KeyManager.import_key_underived derives
    change (d.keys.importKey key).1.result = .ok k at imported
    rw [refused] at imported
    cases imported

end Act

/-! ### Sessions -/

section Sessions

variable {τ : Type} {t : Transport τ} {s : Signer τ}

theorem signing_accepts {k : Kind} (signing : k.isA .signing = true) : k.isA .validation = false := by
  revert signing
  cases k <;> decide

namespace LedgerSession

-- An error of the signer is always of the signing family in the end.
theorem session_accepts {terms : SessionTerms} {id : Value} {steps : List WriteStep} {contacts : List Contact} {e : Error}
    (session : Session terms id steps contacts (.error e))
    (answered : ∀ c cause, .call c (.error cause) ∈ contacts → cause.objects = false) : e.objects = false := by
  obtain ⟨done, step, undone, works, tail, _, _, rfl, stopped⟩ := session_failure session
  have answeredLast : ∀ c cause, .call c (.error cause) ∈ tail → cause.objects = false :=
    fun c cause member => answered c cause (List.mem_append_right _ member)
  cases stopped with
  | buildFault given payload => rfl
  | buildRaised e => exact answeredLast _ e List.mem_cons_self
  | unsigned given unsigned cause =>
      by_cases signing : cause.kind.isA .signing = true
      · rw [if_pos signing]
        exact signing_accepts signing
      · rw [if_neg signing]
        rfl
  | submitFault given unsigned signed sent payload => rfl
  | submitRaised given unsigned signed e => exact answeredLast (submitCall terms id unsigned signed) e (by simp)

theorem execute_accepts (accepting : ∀ c world e, (t.call c world).1.result = .error e → e.objects = false)
    (terms : SessionTerms) (given : Value) (steps : List WriteStep) : (execute t s terms given steps).Accepts := by
  intro d e failed
  by_cases exhausted : given = .null ∧ d.random.rpcIds = []
  · obtain ⟨rfl, empty⟩ := exhausted
    rw [execute_without_id t s terms steps d empty] at failed
    cases failed
    rfl
  · have available : given = .null → d.random.rpcIds ≠ [] := fun absent empty => exhausted ⟨absent, empty⟩
    obtain ⟨id, rest, contacts, _, played, _, session⟩ := execute_session t s terms given steps d available
    rw [failed] at session
    refine session_accepts session ?_
    intro c cause member
    obtain ⟨world, answer⟩ := plays_called played member
    exact accepting c world cause answer.symm

end LedgerSession

end Sessions

end EbsiDid
