import EbsiDid.Ethereum.Transaction
import EbsiDid.Proofs.Json.Proper
import Mathlib.Data.List.Forall2

set_option autoImplicit false

/-!
Requests for a signature, as their members are read. Members cannot be read for one reason only, and a transaction
that was read cannot be encoded just when the request names a quantity below zero, or a slot that 32 bytes do not hold.
-/
namespace EbsiDid.Ethereum

/-! ### Quantities -/

theorem quantity_error {v : Value} {e : Error} (failed : quantity v = .error e) : e = .badValue := by
  cases v with
  | text s =>
      rw [quantity] at failed
      split at failed
      · cases failed
      · cases failed
        rfl
  | _ => cases failed

theorem read_quantities_error {names : List String} {tx : Record} {e : Error} (failed : readQuantities names tx = .error e) :
    e = .badValue := by
  induction names generalizing tx with
  | nil => cases failed
  | cons name rest ih =>
      rw [readQuantities] at failed
      split at failed
      · exact ih failed
      · rename_i v _
        cases read : quantity v with
        | error cause =>
            rw [read] at failed
            cases failed
            exact quantity_error read
        | ok n =>
            rw [read] at failed
            exact ih failed

namespace Transaction

/-! ### Members -/

variable {tx : Record} {t : Transaction}

-- What was read of which member. No other members are there.
structure ReadOf (tx : Record) (t : Transaction) : Prop where
  kind : TransactionKind.of tx = some t.kind
  allowed : ∀ name ∈ tx.keys, name ∈ t.kind.allowed
  chainId : chain? t.kind tx = some t.chainId
  nonce : tx.get? "nonce" = some (.int t.nonce)
  fees : List.Forall₂ (fun name n => tx.get? name = some (.int n)) (feeNames t.kind) t.fees
  gas : tx.get? "gas" = some (.int t.gas)
  value : (tx.get? "value").getD (.int 0) = .int t.value

theorem integer_iff {v : Value} {n : Int} : integer? v = some n ↔ v = .int n := by
  cases v <;> simp [integer?]

theorem integer_member {name : String} {n : Int} (read : integer? (tx.get name) = some n) : tx.get? name = some (.int n) := by
  rw [integer_iff, Record.get] at read
  cases found : tx.get? name with
  | none =>
      rw [found] at read
      cases read
  | some v =>
      rw [found] at read
      exact congrArg some read

theorem integer_members {names : List String} {ns : List Int}
    (read : names.mapM (fun name => integer? (tx.get name)) = some ns) :
    List.Forall₂ (fun name n => tx.get? name = some (.int n)) names ns := by
  induction names generalizing ns with
  | nil =>
      cases read
      exact .nil
  | cons name rest ih =>
      simp only [List.mapM_cons, bind, pure, Option.bind_eq_some_iff, Option.some.injEq] at read
      obtain ⟨n, first, others, later, rfl⟩ := read
      exact .cons (integer_member first) (ih later)

theorem read_of_members (read : ofMembers? tx = some t) : ReadOf tx t := by
  simp only [ofMembers?, bind, pure, Option.bind_none, Option.ite_none_left_eq_some, Option.bind_eq_some_iff,
    Option.some.injEq] at read
  obtain ⟨kind, asked, _, allowed, _, chainId, chain, nonce, nonceRead, fees, feesRead, gas, gasRead, recipient, _, value,
    valueRead, data, _, accessList, _, rfl⟩ := read
  refine ⟨asked, ?_, chain, integer_member nonceRead, integer_members feesRead, integer_member gasRead,
    integer_iff.mp valueRead⟩
  simpa using allowed

/-! ### Numbers without an encoding -/

-- The request names a quantity below zero.
def NamesNegative (tx : Record) : Prop := ∃ name ∈ quantityNames, ∃ n < 0, tx.get? name = some (.int n)

-- A slot of the access list is below zero, or takes more than 32 bytes.
def StraysSlot (t : Transaction) : Prop := ∃ entry ∈ t.accessList, ∃ n ∈ entry.slots, n < 0 ∨ 256 ^ 32 ≤ n

def quantities (t : Transaction) : List Int := t.chainId.toList ++ t.nonce :: t.gas :: t.value :: t.fees

theorem byte_length_le (n width : Nat) : Encoding.byteLength n ≤ width ↔ n < 256 ^ width := by
  have base : 256 = 2 ^ 8 := rfl
  unfold Encoding.byteLength
  split
  · rename_i zero
    subst zero
    exact ⟨fun _ => Nat.pow_pos (by decide), fun _ => Nat.zero_le width⟩
  · rename_i nonzero
    rw [base, ← Nat.pow_mul, ← Nat.log2_lt nonzero]
    omega

theorem encodable_iff (t : Transaction) : t.encodable = false ↔ (∃ n ∈ t.quantities, n < 0) ∨ t.StraysSlot := by
  have slot (n : Int) : (decide (0 ≤ n) && decide (Encoding.byteLength n.toNat ≤ 32)) = false ↔ n < 0 ∨ 256 ^ 32 ≤ n := by
    rw [Bool.and_eq_false_iff, decide_eq_false_iff_not, decide_eq_false_iff_not, byte_length_le]
    omega
  simp only [encodable, Bool.and_eq_false_iff, List.all_eq_false, Bool.not_eq_true, slot, decide_eq_false_iff_not, Int.not_le]
  rfl

theorem related_right {α β : Type} {R : α → β → Prop} {xs : List α} {ys : List β} (related : List.Forall₂ R xs ys) :
    ∀ x ∈ xs, ∃ y ∈ ys, R x y := by
  induction related with
  | nil => exact nofun
  | cons first _ ih =>
      intro x member
      rcases List.mem_cons.mp member with rfl | later
      · exact ⟨_, List.mem_cons_self, first⟩
      · obtain ⟨y, inside, same⟩ := ih x later
        exact ⟨y, List.mem_cons_of_mem _ inside, same⟩

theorem related_left {α β : Type} {R : α → β → Prop} {xs : List α} {ys : List β} (related : List.Forall₂ R xs ys) :
    ∀ y ∈ ys, ∃ x ∈ xs, R x y := related_right related.flip

-- A chain that is read but not named is zero.
theorem chain_negative {kind : TransactionKind} {chain : Option Int} (read : chain? kind tx = some chain) {n : Int}
    (negative : n < 0) : chain = some n ↔ tx.get? "chainId" = some (.int n) := by
  have nonzero : 0 ≠ n := (Int.ne_of_lt negative).symm
  cases named : tx.get? "chainId" with
  | none => cases kind <;> simp [chain?, named] at read <;> simp [← read, nonzero]
  | some v => cases kind <;> cases v <;> simp [chain?, named, integer?] at read <;> simp [← read]

theorem value_negative {n : Int} (read : (tx.get? "value").getD (.int 0) = .int n) (negative : n < 0) :
    tx.get? "value" = some (.int n) := by
  cases named : tx.get? "value" with
  | some v =>
      rw [named] at read
      exact congrArg some read
  | none =>
      rw [named] at read
      cases read
      cases negative

theorem type_positive {kind : TransactionKind} (asked : TransactionKind.of tx = some kind) {n : Int}
    (named : tx.get? "type" = some (.int n)) : 0 < n := by
  rw [TransactionKind.of, named] at asked
  split at asked
  · rename_i one
    cases one
    decide
  · rename_i two
    cases two
    decide
  · cases asked
  · rename_i absent
    cases absent

theorem fees_are_quantities (kind : TransactionKind) : ∀ name ∈ feeNames kind, name ∈ quantityNames := by
  cases kind <;> decide

-- What a kind of transaction may have of the quantities, it reads. The type is the kind itself.
theorem allowed_quantities (kind : TransactionKind) : ∀ name ∈ quantityNames, name ∈ kind.allowed →
    name = "type" ∨ name = "chainId" ∨ name = "nonce" ∨ name = "gas" ∨ name = "value" ∨ name ∈ feeNames kind := by
  cases kind <;> decide

-- No quantity of a request is passed over, so that a sign is lost nowhere.
theorem negative_named (read : ReadOf tx t) : (∃ n ∈ t.quantities, n < 0) ↔ NamesNegative tx := by
  constructor
  · rintro ⟨n, member, negative⟩
    simp only [quantities, List.mem_append, List.mem_cons, Option.mem_toList] at member
    rcases member with chain | rfl | rfl | rfl | fee
    · exact ⟨"chainId", by decide, n, negative, (chain_negative read.chainId negative).mp chain⟩
    · exact ⟨"nonce", by decide, _, negative, read.nonce⟩
    · exact ⟨"gas", by decide, _, negative, read.gas⟩
    · exact ⟨"value", by decide, _, negative, value_negative read.value negative⟩
    · obtain ⟨name, charged, named⟩ := related_left read.fees n fee
      exact ⟨name, fees_are_quantities t.kind name charged, n, negative, named⟩
  · rintro ⟨name, quantity, n, negative, named⟩
    have present : name ∈ tx.keys := List.mem_map.mpr ⟨_, Record.mem_of_get? named, rfl⟩
    refine ⟨n, ?_, negative⟩
    simp only [quantities, List.mem_append, List.mem_cons, Option.mem_toList]
    rcases allowed_quantities t.kind name quantity (read.allowed name present) with rfl | rfl | rfl | rfl | rfl | charged
    · exact absurd (type_positive read.kind named) (Int.lt_asymm negative)
    · exact .inl ((chain_negative read.chainId negative).mpr named)
    · rw [read.nonce] at named
      cases named
      exact .inr (.inl rfl)
    · rw [read.gas] at named
      cases named
      exact .inr (.inr (.inl rfl))
    · have value := read.value
      rw [named] at value
      cases value
      exact .inr (.inr (.inr (.inl rfl)))
    · obtain ⟨fee, member, same⟩ := related_right read.fees name charged
      rw [same] at named
      cases named
      exact .inr (.inr (.inr (.inr member)))

end Transaction
end EbsiDid.Ethereum
