import EbsiDid.Ledger.Session

set_option autoImplicit false

/-!
What a desk asks of the outside, in order, and what it is answered. `Plays` says that the answers are
those that the registry and the signer give where each of them then stands.
-/
namespace EbsiDid

inductive Request where
  | call (c : RpcCall)
  | sign (kid transaction : Value)

def Event.request? : Event → Option Request
  | .called c => some (.call c)
  | .asked kid transaction => some (.sign kid transaction)
  | _ => none

def Trace.requests (t : Trace) : List Request := t.filterMap Event.request?

inductive Contact where
  | call (c : RpcCall) (answer : Except Error RpcOutcome)
  | sign (kid transaction : Value) (answer : Except Error SignedTransaction)

namespace Contact

def request : Contact → Request
  | .call c _ => .call c
  | .sign kid transaction _ => .sign kid transaction

def succeeds : Contact → Bool
  | .call _ (.ok (.result _ _)) => true
  | .sign _ _ (.ok _) => true
  | _ => false

def call? : Contact → Option RpcCall
  | .call c _ => some c
  | .sign _ _ _ => none

def signature? : Contact → Option (Value × Value)
  | .call _ _ => none
  | .sign kid transaction _ => some (kid, transaction)

def calls (contacts : List Contact) : List RpcCall := contacts.filterMap call?

def signatures (contacts : List Contact) : List (Value × Value) := contacts.filterMap signature?

theorem calls_append (a b : List Contact) : calls (a ++ b) = calls a ++ calls b := List.filterMap_append

theorem signatures_append (a b : List Contact) : signatures (a ++ b) = signatures a ++ signatures b :=
  List.filterMap_append

theorem mem_calls {contacts : List Contact} {c : RpcCall} : c ∈ calls contacts ↔ .call c ∈ contacts.map request := by
  rw [calls, List.mem_filterMap, List.mem_map]
  refine exists_congr fun contact => and_congr_right fun _ => ?_
  cases contact <;> simp [call?, request]

end Contact

namespace Trace

theorem requests_append (a b : Trace) : requests (a ++ b) = requests a ++ requests b :=
  List.filterMap_append

theorem requests_moved (current next : Phase) (method : Option RpcMethod) (t : Trace) :
    requests (.moved current next method :: t) = requests t := rfl

theorem requests_asked (kid transaction : Value) (t : Trace) :
    requests (.asked kid transaction :: t) = .sign kid transaction :: requests t := rfl

theorem requests_lines (log : Log) : requests (log.map Event.line) = [] := by
  simp only [requests, List.filterMap_map, List.filterMap_eq_nil_iff]
  intro line _
  rfl

end Trace

namespace Act

variable {τ α β : Type}

theorem bind_of_ok {x : Act τ α} {f : α → Act τ β} {d : Desk τ} {a : α} (ends : (x d).result = .ok a) :
    (x >>= f) d = ⟨(f a (x d).desk).result, (x d).trace ++ (f a (x d).desk).trace, (f a (x d).desk).desk⟩ := by
  change Act.bind x f d = _
  simp only [Act.bind, ends]

theorem bind_of_error {x : Act τ α} {f : α → Act τ β} {d : Desk τ} {e : Error} (ends : (x d).result = .error e) :
    (x >>= f) d = ⟨.error e, (x d).trace, (x d).desk⟩ := by
  change Act.bind x f d = _
  simp only [Act.bind, ends]

theorem bind_of_run {x : Act τ α} {f : α → Act τ β} {d last : Desk τ} {a : α} {t : Trace} (run : x d = ⟨.ok a, t, last⟩) :
    (x >>= f) d = ⟨(f a last).result, t ++ (f a last).trace, (f a last).desk⟩ := by
  rw [bind_of_ok (congrArg Ended.result run), run]

theorem bind_of_failed_run {x : Act τ α} {f : α → Act τ β} {d last : Desk τ} {e : Error} {t : Trace}
    (run : x d = ⟨.error e, t, last⟩) : (x >>= f) d = ⟨.error e, t, last⟩ := by
  rw [bind_of_error (congrArg Ended.result run), run]

theorem call_trace (t : Transport τ) (c : RpcCall) (d : Desk τ) :
    (call t c d).trace.requests = [.call c] := by
  change Request.call c :: Trace.requests ((t.call c d.outside).1.log.map Event.line) = _
  rw [Trace.requests_lines]

theorem sign_trace (s : Signer τ) (kid transaction : Value) (d : Desk τ) :
    (sign s kid transaction d).trace = [.asked kid transaction] := by
  cases s <;> rfl

end Act

-- The desk moves from one contact to the next; between them nothing outside is touched.
def Plays {τ : Type} (t : Transport τ) (s : Signer τ) : Desk τ → List Contact → Desk τ → Prop
  | d, [], last => last = d
  | d, .call c answer :: rest, last =>
      answer = (Act.call t c d).result ∧ Plays t s (Act.call t c d).desk rest last
  | d, .sign kid transaction answer :: rest, last =>
      answer = (Act.sign s kid transaction d).result ∧ Plays t s (Act.sign s kid transaction d).desk rest last

theorem plays_append {τ : Type} {t : Transport τ} {s : Signer τ} {first : List Contact} {more : List Contact}
    {d middle last : Desk τ} (front : Plays t s d first middle) (back : Plays t s middle more last) :
    Plays t s d (first ++ more) last := by
  induction first generalizing d with
  | nil =>
      cases front
      exact back
  | cons contact rest ih =>
      cases contact with
      | call c answer => exact ⟨front.1, ih front.2⟩
      | sign kid transaction answer => exact ⟨front.1, ih front.2⟩

-- Whatever a call is answered is what the transport answers it at some time.
theorem plays_called {τ : Type} {t : Transport τ} {s : Signer τ} {contacts : List Contact} {d last : Desk τ}
    (played : Plays t s d contacts last) {c : RpcCall} {answer : Except Error RpcOutcome}
    (member : .call c answer ∈ contacts) : ∃ world, answer = (t.call c world).1.result := by
  induction contacts generalizing d with
  | nil => cases member
  | cons contact rest ih =>
      cases contact with
      | call other given =>
          cases List.mem_cons.mp member with
          | inl here =>
              cases here
              exact ⟨d.outside, played.1⟩
          | inr later => exact ih played.2 later
      | sign kid transaction given =>
          cases List.mem_cons.mp member with
          | inl here => cases here
          | inr later => exact ih played.2 later

-- Signing may mark a key as in use; which keys there are, and the random material, stay as they were.
theorem sign_keys (m : KeyManager) (kid transaction : Value) :
    (m.sign kid transaction).2.keys = m.keys ∧ (m.sign kid transaction).2.privateKeys = m.privateKeys := by
  unfold KeyManager.sign
  split
  · split
    · split <;> exact ⟨rfl, rfl⟩
    · exact ⟨rfl, rfl⟩
  · exact ⟨rfl, rfl⟩

theorem plays_keys {τ : Type} {t : Transport τ} {s : Signer τ} {contacts : List Contact} {d last : Desk τ}
    (played : Plays t s d contacts last) :
    last.random = d.random ∧ last.keys.keys = d.keys.keys ∧ last.keys.privateKeys = d.keys.privateKeys := by
  induction contacts generalizing d with
  | nil =>
      cases played
      exact ⟨rfl, rfl, rfl⟩
  | cons contact rest ih =>
      cases contact with
      | call c answer =>
          have kept := ih played.2
          exact kept
      | sign kid transaction answer =>
          obtain ⟨random, keys, privateKeys⟩ := ih played.2
          cases s with
          | outside sign => exact ⟨random, keys, privateKeys⟩
          | keyManager =>
              have kept := sign_keys d.keys kid transaction
              exact ⟨random, keys.trans kept.1, privateKeys.trans kept.2⟩

end EbsiDid
