import EbsiDid.Proofs.Wallet.Refusal

set_option autoImplicit false

/-!
What is answered of a signature. The signer of a transaction folds the recovery id into `v`, in one of three ways that go
by the transaction's kind and chain; the answer has neither kind nor chain in its `v`, and has both halves of the
signature as words of 32 bytes.
-/
namespace EbsiDid

namespace Ecdsa

-- Both halves are residues other than zero, the second is the lower of its two forms, and the recovery id is a bit.
structure InForm (c : Curve) (g : Signature) : Prop where
  first : 0 < g.r ∧ g.r < c.order
  second : 0 < g.s ∧ g.s ≤ c.order / 2
  bit : g.recovery < 2

variable {c : Curve} {g : Signature}

theorem sign_with_in_form {key digest k : Nat} (signed : signWith c key digest k = some g) : InForm c g := by
  unfold signWith at signed
  cases derived : c.ofScalar? k with
  | none =>
      rw [derived] at signed
      cases signed
  | some q =>
      simp only [derived, bind, Option.bind, pure, Option.ite_none_left_eq_some, Option.some.injEq] at signed
      obtain ⟨sound, rfl⟩ := signed
      rw [not_or, not_or, Nat.not_le] at sound
      obtain ⟨some_r, below, some_s⟩ := sound
      have residue : Field.mul c.order (Field.inverse c.order k) (digest + q.x * key) < c.order :=
        Nat.mod_lt _ (Nat.zero_lt_of_lt below)
      refine ⟨⟨Nat.pos_of_ne_zero some_r, below⟩, ?_, Nat.mod_lt _ Nat.two_pos⟩
      simp only [decide_eq_true_eq]
      split <;> omega

theorem sign_in_form {key digest : Bytes} (signed : sign c key digest = some g) : InForm c g := sign_with_in_form signed

end Ecdsa

namespace KeyManager

open Ethereum (Transaction)

/-! ### The three conventions for `v` -/

section Conventions

variable {recovery : Nat} (bit : recovery < 2)

include bit

theorem recovery_unmarked : Ethereum.recoveryV recovery = 27 + recovery := by
  unfold Ethereum.recoveryV
  split
  · omega
  · split <;> omega

theorem recovery_offset : Ethereum.recoveryV (27 + recovery) = 27 + recovery := by
  unfold Ethereum.recoveryV
  split
  · omega
  · split <;> omega

-- A chain below zero would take `v` under the numbers that mean a chain.
theorem recovery_chain {chain : Int} (natural : 0 ≤ chain) : Ethereum.recoveryV (35 + 2 * chain + recovery) = 27 + recovery := by
  unfold Ethereum.recoveryV
  rw [if_pos (by omega)]
  omega

theorem recovery_reduced {t : Transaction} (fits : t.encodable = true) :
    Ethereum.recoveryV (t.signatureV recovery) = 27 + recovery := by
  unfold Transaction.signatureV
  split
  · exact recovery_offset bit
  · rename_i chain _ named
    have natural : 0 ≤ chain := by
      by_contra negative
      have listed : chain ∈ t.quantities := by simp [Transaction.quantities, named]
      have unfit := (Transaction.encodable_iff t).mpr (.inl ⟨chain, listed, Int.not_le.mp negative⟩)
      rw [fits] at unfit
      cases unfit
    exact recovery_chain bit natural
  · exact recovery_unmarked bit

end Conventions

/-! ### A half of a signature, as a text -/

-- The mark and the digits of 32 bytes, for a number.
def SpellsWord (v : Value) (n : Nat) : Prop :=
  ∃ digits ds, v = .text ("0x" ++ digits) ∧ Number.Digits ds digits.toList ∧ ds.length = 64 ∧ Number.ofDigits 16 ds = n

theorem word_spelt {n : Nat} (fits : n < Nat.pow 256 32) : SpellsWord (word n) n := by
  refine ⟨_, _, rfl, Number.halves_digits (Encoding.bigEndian 32 n), ?_, ?_⟩
  · rw [Number.halves_length, Encoding.bigEndian_length]
  · rw [Number.halves_value, Encoding.toNat_bigEndian 32 n fits]

theorem order_fits : Curve.secp256k1.order < Nat.pow 256 32 := by decide +kernel

/-! ### Which transactions are signed -/

-- A stored key of the right type and a transaction that can be written down, with the signature of its digest.
structure SignedOver (m : KeyManager) (kid tx : Value) (t : Transaction) (g : Signature) : Prop where
  scalar : kid.hashable = true
  read : ∃ members, Ethereum.unsigned tx = .ok members ∧ Transaction.ofMembers? members = some t
  fits : t.encodable = true
  held : ∃ k text key, m.keys.get? kid = some k ∧ m.privateKeys.get? kid = some text ∧ k.type = .secp256k1 ∧
    signingKey? text = some key ∧ Ecdsa.sign Curve.secp256k1 key t.digest = some g

theorem sign_transaction_ok {key : Bytes} {t : Transaction} {signed : SignedTransaction} :
    signTransaction key t = .ok signed ↔
      ∃ g, t.encodable = true ∧ Ecdsa.sign Curve.secp256k1 key t.digest = some g ∧ signed = answer t g := by
  unfold signTransaction
  cases fits : t.encodable with
  | false => simp
  | true => cases Ecdsa.sign Curve.secp256k1 key t.digest <;> simp [eq_comm]

theorem sign_with_ok {text : String} {tx : Value} {signed : SignedTransaction} :
    signWith text tx = .ok signed ↔ ∃ members key t, Ethereum.unsigned tx = .ok members ∧ signingKey? text = some key ∧
      Transaction.ofMembers? members = some t ∧ signTransaction key t = .ok signed := by
  unfold signWith
  cases Ethereum.unsigned tx with
  | error e => by_cases missing : e.kind = .missingAttribute <;> simp [missing]
  | ok members => cases key : signingKey? text <;> cases read : Transaction.ofMembers? members <;> simp [read]

theorem sign_ok {m : KeyManager} {kid tx : Value} {signed : SignedTransaction} :
    (m.sign kid tx).1 = .ok signed ↔ kid.hashable = true ∧ ∃ k text, m.keys.get? kid = some k ∧
      m.privateKeys.get? kid = some text ∧ k.type = .secp256k1 ∧ signWith text tx = .ok signed := by
  unfold sign
  cases kid.hashable with
  | false => simp
  | true =>
      cases m.keys.get? kid with
      | none => simp
      | some k =>
          cases m.privateKeys.get? kid with
          | none => simp
          | some text => cases type : k.type <;> simp [type]

theorem signed_iff {m : KeyManager} {kid tx : Value} {signed : SignedTransaction} :
    (m.sign kid tx).1 = .ok signed ↔ ∃ t g, m.SignedOver kid tx t g ∧ signed = answer t g := by
  rw [sign_ok]
  constructor
  · rintro ⟨scalar, k, text, descriptor, privateKey, type, signs⟩
    obtain ⟨members, key, t, converted, bytes, read, signs⟩ := sign_with_ok.mp signs
    obtain ⟨g, fits, signs, same⟩ := sign_transaction_ok.mp signs
    exact ⟨t, g, ⟨scalar, ⟨members, converted, read⟩, fits, k, text, key, descriptor, privateKey, type, bytes, signs⟩, same⟩
  · rintro ⟨t, g, ⟨scalar, ⟨members, converted, read⟩, fits, k, text, key, descriptor, privateKey, type, bytes, signs⟩, same⟩
    have signs := sign_transaction_ok.mpr ⟨g, fits, signs, same⟩
    exact ⟨scalar, k, text, descriptor, privateKey, type, sign_with_ok.mpr ⟨members, key, t, converted, bytes, read, signs⟩⟩

/-! ### What is answered -/

-- The answer for a signature.
structure Reduced (g : Signature) (signed : SignedTransaction) : Prop where
  bit : g.recovery = 0 ∨ g.recovery = 1
  v : signed.v = .int (27 + g.recovery)
  chainless : ∀ chain recovery : Nat, signed.v ≠ .int (35 + 2 * chain + recovery)
  envelope : ∀ unsigned, (signed.envelope unsigned).get? "v" = some (.text (if g.recovery = 0 then "27" else "28"))
  r : SpellsWord signed.r g.r
  s : SpellsWord signed.s g.s

theorem reduced_of_v {g : Signature} {signed : SignedTransaction} (bit : g.recovery < 2) (v : signed.v = .int (27 + g.recovery))
    (r : SpellsWord signed.r g.r) (s : SpellsWord signed.s g.s) : Reduced g signed := by
  have either : g.recovery = 0 ∨ g.recovery = 1 := by omega
  refine ⟨either, v, fun chain recovery same => ?_, fun unsigned => ?_, r, s⟩
  · rw [v, Value.int.injEq] at same
    omega
  · have found : (signed.envelope unsigned).get? "v" = some (.text signed.v.display) := rfl
    rw [found, v]
    rcases either with zero | one
    · rw [zero]
      rfl
    · rw [one]
      rfl

theorem signed_reduced {m : KeyManager} {kid tx : Value} {t : Transaction} {g : Signature} (signs : m.SignedOver kid tx t g) :
    Reduced g (answer t g) := by
  obtain ⟨_, _, _, _, _, _, _, signed⟩ := signs.held
  have form := Ecdsa.sign_in_form signed
  have half : Curve.secp256k1.order / 2 ≤ Curve.secp256k1.order := Nat.div_le_self _ 2
  refine reduced_of_v form.bit ?_ (word_spelt (form.first.2.trans order_fits)) (word_spelt ?_)
  · exact congrArg Value.int (recovery_reduced form.bit signs.fits)
  · exact (form.second.2.trans half).trans_lt order_fits

-- The recovery id is all that `v` depends on, whatever is signed and whoever signs it.
theorem signed_by_recovery (m : KeyManager) (kid tx : Value) :
    (∀ signed, (m.sign kid tx).1 = .ok signed ↔ ∃ t g, m.SignedOver kid tx t g ∧ signed = answer t g) ∧
      (∀ t g, m.SignedOver kid tx t g → Reduced g (answer t g)) ∧
      ∀ (n : KeyManager) (other another : Value) (t u : Transaction) (g h : Signature), m.SignedOver kid tx t g →
        n.SignedOver other another u h → g.recovery = h.recovery → (answer t g).v = (answer u h).v := by
  refine ⟨fun signed => signed_iff, fun t g signs => signed_reduced signs, ?_⟩
  intro n other another t u g h first second same
  rw [(signed_reduced first).v, (signed_reduced second).v, same]

-- A legacy transaction for the chain 1, and its signature with the private key one.
def chained : Record := [("nonce", .int 0), ("gasPrice", .int 0), ("gas", .int 0), ("chainId", .int 1)]

def chainedTransaction : Transaction := ⟨.legacy, some 1, 0, [0], 0, [], 0, [], []⟩

def chainedSignature : Signature where
  r := 0x877f0ae5b151ddfb6b3b734a42cd058a7bf01e6c455107d3d552ae1b55cdfbcd
  s := 0x2c1bfbc62c1149d9b783d4fa2988259990731cd6e98b6dd5c11f61762f6f28ac
  recovery := 1

def chainedHash : Bytes := Encoding.bigEndian 32 0x0fcd833c3e7cd5e31ef14edd0b7b82f85c92cbd45b5e24e75ec6f286caa2c1aa

theorem chained_digest : chainedTransaction.digest = chainedHash := by
  decide +kernel

-- The keys and the values from which the secret number of this signature is drawn, in order.
def chainedKeys : Bytes × Bytes :=
  (Encoding.bigEndian 32 0x0fb40edb86448727ca4c0fb0af50fe2c6100ae584a66cb698fe86fd617d3d78a,
   Encoding.bigEndian 32 0x448cbe927c9fa2f76150660e0de15e41b80377789d9ae31fb382ae2e96c3c0d8)

def chainedValues : Bytes × Bytes :=
  (Encoding.bigEndian 32 0xc92da3cd5b23e796d929ddabbdd5d6222e975d166c4f1145d25ecfa3b41684cc,
   Encoding.bigEndian 32 0x6a5c315fbf5017f029a1f8b9651d081dc43601ce9702405aea1dfc0bae39aa93)

def chainedNonce : Nat := 0x2bb9a13f6985b24329dfac936eff108fe35e11c128ee183ca795d7f439fae9f3

-- The keyed hashes are computed one by one: together they take too much memory.
theorem chained_nonce : Ecdsa.nonce (Encoding.bigEndian 32 1) chainedHash = chainedNonce := by
  have key : Hmac.sha256 (List.replicate 32 0)
      (List.replicate 32 1 ++ 0 :: (Encoding.bigEndian 32 1 ++ chainedHash)) = chainedKeys.1 := by decide +kernel
  have value : Hmac.sha256 chainedKeys.1 (List.replicate 32 1) = chainedValues.1 := by decide +kernel
  have otherKey : Hmac.sha256 chainedKeys.1
      (chainedValues.1 ++ 1 :: (Encoding.bigEndian 32 1 ++ chainedHash)) = chainedKeys.2 := by decide +kernel
  have otherValue : Hmac.sha256 chainedKeys.2 chainedValues.1 = chainedValues.2 := by decide +kernel
  have number : Encoding.toNat (Hmac.sha256 chainedKeys.2 chainedValues.2) = chainedNonce := by decide +kernel
  rw [Ecdsa.nonce, key, value, otherKey, otherValue, number]

theorem chained_signed : Ecdsa.sign Curve.secp256k1 (Encoding.bigEndian 32 1) chainedTransaction.digest =
    some chainedSignature := by
  rw [chained_digest, Ecdsa.sign, chained_nonce]
  decide +kernel

-- With the offset by its chain the recovery id would be 38.
theorem signed_by_recovery_chained :
    let m := (empty.importKey (unitKey wholeUnit)).2
    (m.sign (.text "k") (.record chained)).1 = .ok (answer chainedTransaction chainedSignature) ∧
      chainedTransaction.signatureV chainedSignature.recovery = 38 ∧
      (answer chainedTransaction chainedSignature).v = .int 28 ∧
      ∃ t g, m.SignedOver (.text "k") (.record chained) t g ∧
        answer chainedTransaction chainedSignature = answer t g ∧ Reduced g (answer t g) := by
  intro m
  have signs : (m.sign (.text "k") (.record chained)).1 = .ok (answer chainedTransaction chainedSignature) :=
    (whole_unit_signs.2 _).trans (sign_transaction_ok.mpr ⟨_, by decide, chained_signed, rfl⟩)
  obtain ⟨signed_iff, reduced, _⟩ := signed_by_recovery m (.text "k") (.record chained)
  obtain ⟨t, g, signedOver, same⟩ := (signed_iff _).mp signs
  exact ⟨signs, by decide, rfl, t, g, signedOver, same, reduced t g signedOver⟩

end KeyManager
end EbsiDid
