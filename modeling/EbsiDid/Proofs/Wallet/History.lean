import EbsiDid.Proofs.Ledger.Contact
import EbsiDid.Proofs.Wallet.KeyManager

set_option autoImplicit false

/-!
The keys of a manager after any requests. What is found under a kid is what was imported last under it, if
nothing was deleted under it since; the maps of a manager agree on their kids, and every descriptor with
the private key beside it.
-/
namespace EbsiDid

namespace KeyManager

/-! ### Requests and their history -/

inductive Ask where
  | importKey (key : ImportableKey)
  | getKey (kid : Value)
  | deleteKey (kid : Value)
  | sign (kid transaction : Value)

inductive Told where
  | key (result : Except Error KeyDescriptor)
  | deleted (result : Except Error Bool)
  | signed (result : Except Error SignedTransaction)

def serve (m : KeyManager) : Ask → Told × KeyManager
  | .importKey key => (.key (m.importKey key).1.result, (m.importKey key).2)
  | .getKey kid => (.key (m.getKey kid), m)
  | .deleteKey kid => (.deleted (m.deleteKey kid).1, (m.deleteKey kid).2)
  | .sign kid transaction => (.signed (m.sign kid transaction).1, (m.sign kid transaction).2)

structure Served where
  ask : Ask
  told : Told

-- Oldest first.
abbrev History := List Served

def serveAll : History × KeyManager → List Ask → History × KeyManager
  | now, [] => now
  | (h, m), ask :: rest => serveAll (h ++ [⟨ask, (m.serve ask).1⟩], (m.serve ask).2) rest

def afterAll (asks : List Ask) : History × KeyManager := serveAll ([], empty) asks

-- Did it put a key under a kid, or delete what was there?
def Served.concerns (kid : Value) : Served → Bool
  | ⟨.importKey _, .key (.ok k)⟩ => k.kid.alike kid
  | ⟨.deleteKey other, _⟩ => other.alike kid
  | _ => false

def Served.Imports (s : Served) (k : KeyDescriptor) : Prop := ∃ key, s = ⟨.importKey key, .key (.ok k)⟩

def LastImport (h : History) (kid : Value) (k : KeyDescriptor) : Prop :=
  ∃ before s after, h = before ++ s :: after ∧ s.Imports k ∧ k.kid.alike kid = true ∧
    ∀ later ∈ after, later.concerns kid = false

theorem imports_alike_iff (key : ImportableKey) (k other : KeyDescriptor) (kid : Value) :
    Served.Imports ⟨.importKey key, .key (.ok k)⟩ other ∧ other.kid.alike kid = true ↔ k.kid.alike kid = true ∧ k = other := by
  constructor
  · rintro ⟨⟨_, made⟩, same⟩
    cases made
    exact ⟨same, rfl⟩
  · rintro ⟨same, rfl⟩
    exact ⟨⟨key, rfl⟩, same⟩

theorem last_import_none (kid : Value) (k : KeyDescriptor) : ¬ LastImport [] kid k := by
  rintro ⟨before, s, after, split, _⟩
  simp at split

theorem last_import_append (h : History) (s : Served) (kid : Value) (k : KeyDescriptor) :
    LastImport (h ++ [s]) kid k ↔
      (s.Imports k ∧ k.kid.alike kid = true) ∨ (s.concerns kid = false ∧ LastImport h kid k) := by
  constructor
  · rintro ⟨before, first, after, split, imports, same, later⟩
    rcases List.eq_nil_or_concat after with rfl | ⟨more, last, rfl⟩
    · obtain ⟨_, rfl⟩ := List.append_singleton_inj.mp split
      exact .inl ⟨imports, same⟩
    · rw [List.concat_eq_append, ← List.cons_append, ← List.append_assoc] at split
      obtain ⟨rfl, rfl⟩ := List.append_singleton_inj.mp split
      refine .inr ⟨later s (by simp), before, first, more, rfl, imports, same, ?_⟩
      intro other member
      exact later other (by simp [member])
  · rintro (⟨imports, same⟩ | ⟨apart, before, first, after, rfl, imports, same, later⟩)
    · exact ⟨h, s, [], rfl, imports, same, nofun⟩
    · refine ⟨before, first, after ++ [s], by simp, imports, same, ?_⟩
      intro other member
      rcases List.mem_append.mp member with among | last
      · exact later other among
      · cases List.mem_singleton.mp last
        exact apart

/-! ### What a manager holds, by its history -/

-- The public key of a descriptor is that of a private key, which is a number in base sixteen.
def Derived (text : String) (k : KeyDescriptor) : Prop :=
  ∃ n point, Number.hexadecimal? text = some n ∧ (Curve.ofType k.type).isScalar n = true ∧
    (Curve.ofType k.type).ofScalar? n.toNat = some point ∧ k.publicKeyHex = .text (Hex.encode (Sec1.compressed point))

theorem derived_of_derives {key : ImportableKey} {k : KeyDescriptor} {text : String} (derives : Derives key k text) :
    Derived text k := by
  obtain ⟨publicKey, derived, rfl⟩ := derives.descriptor
  simp only [publicKeyOf?, scalar?, bind, Option.bind_eq_some_iff, pure, Option.ite_none_right_eq_some,
    Option.some.injEq] at derived
  obtain ⟨n, ⟨number, read, fits, rfl⟩, point, multiple, rfl⟩ := derived
  exact ⟨number, point, read, fits, multiple, rfl⟩

structure Holdings (m : KeyManager) (h : History) : Prop where
  kids : m.privateKeys.keys = m.keys.keys
  locks : ∀ kid ∈ m.locks.keys, kid.hashable = true ∧ m.keys.has kid = true
  derived : ∀ kid k, m.keys.get? kid = some k → kid.hashable = true →
    ∃ text, m.privateKeys.get? kid = some text ∧ Derived text k
  last : ∀ kid k, LastImport h kid k ↔ kid.hashable = true ∧ m.keys.get? kid = some k

theorem holdings_empty : Holdings empty [] := by
  refine ⟨rfl, nofun, nofun, ?_⟩
  intro kid k
  constructor
  · intro last
    exact absurd last (last_import_none kid k)
  · rintro ⟨_, found⟩
    cases found

-- A signature marks a key that is there as in use, or marks nothing.
theorem sign_locks (m : KeyManager) (kid transaction : Value) :
    (m.sign kid transaction).2 = m ∨
      (kid.hashable = true ∧ m.keys.has kid = true ∧ (m.sign kid transaction).2 = m.lock kid) := by
  unfold sign
  split
  · rename_i fit
    split
    · rename_i found _
      split
      · exact .inr ⟨fit, by rw [Entries.has, found]; rfl, rfl⟩
      · exact .inl rfl
    · exact .inl rfl
  · exact .inl rfl

section Steps

variable {m : KeyManager} {h : History}

-- A request that neither imports nor deletes leaves the history of every kid as it was.
theorem holdings_kept {after : KeyManager} (holdings : Holdings m h) (s : Served) (imports : ∀ k, ¬ s.Imports k)
    (concerns : ∀ kid, kid.hashable = true → m.keys.has kid = true → s.concerns kid = false) (keys : after.keys = m.keys)
    (privateKeys : after.privateKeys = m.privateKeys)
    (locks : ∀ kid ∈ after.locks.keys, kid ∈ m.locks.keys ∨ (kid.hashable = true ∧ m.keys.has kid = true)) :
    Holdings after (h ++ [s]) := by
  refine ⟨by rw [keys, privateKeys, holdings.kids], ?_, by rw [keys, privateKeys]; exact holdings.derived, ?_⟩
  · intro kid member
    rw [keys]
    rcases locks kid member with before | fresh
    · exact holdings.locks kid before
    · exact fresh
  · intro kid k
    rw [last_import_append, holdings.last, keys]
    constructor
    · rintro (⟨imported, _⟩ | ⟨_, held⟩)
      · exact absurd imported (imports k)
      · exact held
    · rintro ⟨scalar, found⟩
      exact .inr ⟨concerns kid scalar (by rw [Entries.has, found]; rfl), scalar, found⟩

theorem holdings_store (holdings : Holdings m h) {key : ImportableKey} {k : KeyDescriptor} {text : String}
    (derives : Derives key k text) :
    Holdings (m.serve (.importKey key)).2 (h ++ [⟨.importKey key, (m.serve (.importKey key)).1⟩]) := by
  have scalar := derives.scalar
  simp only [serve, import_key_derived derives m]
  have held (kid : Value) (fit : kid.hashable = true) :
      (m.store text k).keys.get? kid = if k.kid.alike kid then some k else m.keys.get? kid :=
    Entries.get_put scalar fit k m.keys
  refine ⟨Entries.keys_put_alike holdings.kids k.kid text k, ?_, ?_, ?_⟩
  · intro kid member
    obtain ⟨fit, before⟩ := holdings.locks kid member
    refine ⟨fit, ?_⟩
    rw [Entries.has, held kid fit]
    split
    · rfl
    · exact before
  · intro kid other found fit
    rw [store, Entries.get_put scalar fit]
    rw [held kid fit] at found
    split at found
    · rename_i same
      cases found
      exact ⟨text, if_pos same, derived_of_derives derives⟩
    · rename_i apart
      rw [if_neg apart]
      exact holdings.derived kid other found fit
  · intro kid other
    rw [last_import_append, holdings.last, imports_alike_iff]
    by_cases fit : kid.hashable = true
    · rw [held kid fit]
      cases same : k.kid.alike kid <;> simp [Served.concerns, same, fit]
    · have apart : k.kid.alike kid = false := Value.alike_unfit fun same => fit (same ▸ scalar)
      simp [fit, apart]

theorem holdings_import (holdings : Holdings m h) (key : ImportableKey) :
    Holdings (m.serve (.importKey key)).2 (h ++ [⟨.importKey key, (m.serve (.importKey key)).1⟩]) := by
  by_cases derives : ∃ k text, Derives key k text
  · obtain ⟨k, text, derives⟩ := derives
    exact holdings_store holdings derives
  · obtain ⟨e, refused⟩ := import_key_underived derives
    simp only [serve, refused m]
    refine holdings_kept holdings _ ?_ (fun _ _ _ => rfl) rfl rfl fun kid member => .inl member
    rintro k ⟨_, made⟩
    cases made

theorem delete_imports_nothing (kid : Value) (told : Told) (k : KeyDescriptor) :
    ¬ Served.Imports ⟨.deleteKey kid, told⟩ k := by
  rintro ⟨_, made⟩
  cases made

theorem holdings_erase (holdings : Holdings m h) {kid : Value} (scalar : kid.hashable = true) :
    Holdings (m.serve (.deleteKey kid)).2 (h ++ [⟨.deleteKey kid, (m.serve (.deleteKey kid)).1⟩]) := by
  simp only [serve, deleteKey, scalar, Bool.true_or, if_true]
  refine ⟨Entries.keys_erase_alike holdings.kids kid, ?_, ?_, ?_⟩
  · intro other member
    rw [Entries.keys_erase, List.mem_filter] at member
    obtain ⟨fit, held⟩ := holdings.locks other member.1
    have apart : kid.alike other = false := by
      rw [Value.alike_comm scalar fit]
      simpa using member.2
    refine ⟨fit, ?_⟩
    rw [Entries.has, Entries.get_erase scalar fit, apart]
    exact held
  · intro other k found fit
    rw [Entries.get_erase scalar fit] at found ⊢
    split at found
    · cases found
    · rename_i apart
      rw [if_neg apart]
      exact holdings.derived other k found fit
  · intro other k
    rw [last_import_append, holdings.last]
    by_cases fit : other.hashable = true
    · rw [Entries.get_erase scalar fit]
      cases same : kid.alike other <;> simp [Served.concerns, same, fit, delete_imports_nothing]
    · simp [fit, delete_imports_nothing]

-- What is no kid is refused, unless there is no key at all; nothing changes either way.
theorem holdings_spare (holdings : Holdings m h) {kid : Value} (unfit : ¬ kid.hashable = true) :
    Holdings (m.serve (.deleteKey kid)).2 (h ++ [⟨.deleteKey kid, (m.serve (.deleteKey kid)).1⟩]) := by
  have concerns (told : Told) (other : Value) (fit : other.hashable = true) (_ : m.keys.has other = true) :
      Served.concerns other ⟨.deleteKey kid, told⟩ = false :=
    Value.alike_unfit fun same => unfit (same.trans fit)
  cases none : m.keys.isEmpty with
  | false =>
      simp only [serve, deleteKey, unfit, none, Bool.or_false]
      exact holdings_kept holdings _ (delete_imports_nothing _ _) (concerns _) rfl rfl fun other member => .inl member
  | true =>
      simp only [serve, deleteKey, unfit, none, Bool.or_true, if_true]
      have keys : m.keys = [] := List.isEmpty_iff.mp none
      have privateKeys : m.privateKeys = [] := by
        have kids := holdings.kids
        rw [keys] at kids
        exact List.map_eq_nil_iff.mp kids
      refine holdings_kept holdings _ (delete_imports_nothing _ _) (concerns _) (by rw [keys]; rfl) (by rw [privateKeys]; rfl) ?_
      intro other member
      rw [Entries.keys_erase, List.mem_filter] at member
      exact .inl member.1

theorem holdings_delete (holdings : Holdings m h) (kid : Value) :
    Holdings (m.serve (.deleteKey kid)).2 (h ++ [⟨.deleteKey kid, (m.serve (.deleteKey kid)).1⟩]) := by
  by_cases scalar : kid.hashable = true
  · exact holdings_erase holdings scalar
  · exact holdings_spare holdings scalar

theorem holdings_sign (holdings : Holdings m h) (kid transaction : Value) :
    Holdings (m.serve (.sign kid transaction)).2 (h ++ [⟨.sign kid transaction, (m.serve (.sign kid transaction)).1⟩]) := by
  obtain ⟨keys, privateKeys⟩ := sign_keys m kid transaction
  refine holdings_kept holdings _ ?_ (fun _ _ _ => rfl) keys privateKeys ?_
  · rintro k ⟨_, made⟩
    cases made
  · intro other member
    rcases sign_locks m kid transaction with same | ⟨fit, held, locked⟩
    · rw [serve, same] at member
      exact .inl member
    · rw [serve, locked, lock] at member
      dsimp only at member
      split at member
      · exact .inl member
      · rename_i absent
        rw [Entries.keys_put, if_neg absent] at member
        rcases List.mem_append.mp member with before | fresh
        · exact .inl before
        · cases List.mem_singleton.mp fresh
          exact .inr ⟨fit, held⟩

theorem holdings_step (holdings : Holdings m h) (ask : Ask) : Holdings (m.serve ask).2 (h ++ [⟨ask, (m.serve ask).1⟩]) := by
  cases ask with
  | importKey key => exact holdings_import holdings key
  | deleteKey kid => exact holdings_delete holdings kid
  | sign kid transaction => exact holdings_sign holdings kid transaction
  | getKey kid =>
      refine holdings_kept holdings _ ?_ (fun _ _ _ => rfl) rfl rfl fun other member => .inl member
      rintro k ⟨_, made⟩
      cases made

theorem holdings_run (holdings : Holdings m h) (asks : List Ask) :
    Holdings (serveAll (h, m) asks).2 (serveAll (h, m) asks).1 := by
  induction asks generalizing m h with
  | nil => exact holdings
  | cons ask rest ih => exact ih (holdings_step holdings ask)

end Steps

/-! ### What is answered after any run -/

theorem sign_with_known (text shown : String) (transaction : Value) :
    signWith text transaction ≠ .error (.signerUnknownKey shown) := by
  intro refused
  unfold signWith at refused
  split at refused
  · rename_i e _
    split at refused
    · -- An error of another family than that of an unknown key.
      rename_i family
      cases refused
      cases family
    · cases refused
  · split at refused
    · unfold signTransaction at refused
      repeat' split at refused
      all_goals cases refused
    · cases refused

-- What a manager has after a history, and what it answers to the next request.
structure Accounts (m : KeyManager) (h : History) : Prop where
  kids : m.privateKeys.keys = m.keys.keys
  locks : ∀ kid ∈ m.locks.keys, m.keys.has kid = true
  named : ∀ kid k, kid.hashable = true → m.keys.get? kid = some k →
    k.kid.alike kid = true ∧ ∀ s, kid = .text s → k.kid = .text s
  derived : ∀ kid k, kid.hashable = true → m.keys.get? kid = some k →
    ∃ text, m.privateKeys.get? kid = some text ∧ Derived text k
  -- Anything but an import with success and a deletion.
  kept : ∀ ask, (∀ k, ¬ Served.Imports ⟨ask, (m.serve ask).1⟩ k) → (∀ kid, ask ≠ .deleteKey kid) →
    (m.serve ask).2.keys = m.keys ∧ (m.serve ask).2.privateKeys = m.privateKeys
  found : ∀ kid k, m.getKey kid = .ok k ↔ LastImport h kid k
  unknown : ∀ kid, kid.hashable = true →
    (m.getKey kid = .error (.unknownKey kid.display) ↔ ¬ ∃ k, LastImport h kid k) ∧
      ((m.deleteKey kid).1 = .ok false ↔ ¬ ∃ k, LastImport h kid k) ∧
      ∀ transaction, (m.sign kid transaction).1 = .error (.signerUnknownKey kid.display) ↔ ¬ ∃ k, LastImport h kid k
  -- What cannot be a kid at all was never one.
  unfit : ∀ kid, kid.hashable = false → m.getKey kid = .error .wrongType ∧ ¬ ∃ k, LastImport h kid k

section Answers

variable {m : KeyManager} {h : History}

theorem get_key_last (holdings : Holdings m h) (kid : Value) (k : KeyDescriptor) :
    m.getKey kid = .ok k ↔ LastImport h kid k := by
  rw [holdings.last, getKey]
  by_cases scalar : kid.hashable = true
  · rw [if_pos scalar]
    cases m.keys.get? kid <;> simp [scalar]
  · simp [scalar]

-- A kid under which nothing is held is unknown in one way to every request.
theorem unknown_iff {kid : Value} (holdings : Holdings m h) (scalar : kid.hashable = true) (transaction : Value) :
    (m.getKey kid = .error (.unknownKey kid.display) ↔ ¬ ∃ k, LastImport h kid k) ∧
      ((m.deleteKey kid).1 = .ok false ↔ ¬ ∃ k, LastImport h kid k) ∧
      ((m.sign kid transaction).1 = .error (.signerUnknownKey kid.display) ↔ ¬ ∃ k, LastImport h kid k) := by
  have last : (∃ k, LastImport h kid k) ↔ ∃ k, m.keys.get? kid = some k := by
    simp only [holdings.last, scalar, true_and]
  rw [last, getKey, deleteKey, sign, Entries.has, scalar]
  cases found : m.keys.get? kid with
  | none => simp
  | some k =>
      obtain ⟨text, held, _⟩ := holdings.derived kid k found scalar
      rw [held]
      have known := sign_with_known text kid.display transaction
      cases type : k.type <;> simp [type, known]

theorem serve_kept (m : KeyManager) (ask : Ask) (imports : ∀ k, ¬ Served.Imports ⟨ask, (m.serve ask).1⟩ k)
    (deletes : ∀ kid, ask ≠ .deleteKey kid) :
    (m.serve ask).2.keys = m.keys ∧ (m.serve ask).2.privateKeys = m.privateKeys := by
  cases ask with
  | importKey key =>
      by_cases derives : ∃ k text, Derives key k text
      · obtain ⟨k, text, derives⟩ := derives
        refine absurd ⟨key, ?_⟩ (imports k)
        rw [serve, import_key_derived derives m]
      · obtain ⟨e, refused⟩ := import_key_underived derives
        rw [serve, refused m]
        exact ⟨rfl, rfl⟩
  | getKey kid => exact ⟨rfl, rfl⟩
  | deleteKey kid => exact absurd rfl (deletes kid)
  | sign kid transaction => exact sign_keys m kid transaction

end Answers

-- Whatever was asked of a manager, with whatever outcome, it holds just what was imported last under each
-- kid and not deleted since.
theorem run_accounts (asks : List Ask) : Accounts (afterAll asks).2 (afterAll asks).1 := by
  have holdings := holdings_run holdings_empty asks
  rw [← afterAll] at holdings
  refine ⟨holdings.kids, fun kid member => (holdings.locks kid member).2, ?_, ?_, serve_kept _, get_key_last holdings, ?_, ?_⟩
  · intro kid k scalar found
    obtain ⟨_, _, _, _, _, same, _⟩ := (holdings.last kid k).mpr ⟨scalar, found⟩
    refine ⟨same, ?_⟩
    rintro s rfl
    exact Value.alike_text same
  · intro kid k scalar found
    exact holdings.derived kid k found scalar
  · intro kid scalar
    obtain ⟨get, delete, _⟩ := unknown_iff holdings scalar .null
    exact ⟨get, delete, fun transaction => (unknown_iff holdings scalar transaction).2.2⟩
  · intro kid unfit
    refine ⟨by rw [getKey, unfit, if_neg Bool.false_ne_true], ?_⟩
    rintro ⟨k, last⟩
    obtain ⟨scalar, _⟩ := (holdings.last kid k).mp last
    exact absurd (unfit.symm.trans scalar) Bool.false_ne_true

end KeyManager
end EbsiDid
