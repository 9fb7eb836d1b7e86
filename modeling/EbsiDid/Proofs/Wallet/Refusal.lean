import EbsiDid.Proofs.Wallet.Signing

set_option autoImplicit false

/-!
How a request for a signature can end. A key manager signs, or objects as a signer does, unless the transaction is
read well and cannot be written down again: what the encoding says of that is passed on as it is.
-/
namespace EbsiDid.KeyManager

open Ethereum (Transaction)

-- The transaction is signed, or the objection is a signer's.
def Responds (r : Except Error SignedTransaction) : Prop := (∃ t, r = .ok t) ∨ ∃ e, r = .error e ∧ e.kind = .signing

-- Key and transaction can be read, and a number in the transaction has no encoding.
def UnwritableBy (text : String) (fields : Record) : Prop :=
  (∃ key, signingKey? text = some key) ∧ ∃ members t, Ethereum.unsignedOf fields = .ok members ∧
    Transaction.ofMembers? members = some t ∧ (Transaction.NamesNegative members ∨ t.StraysSlot)

def Unwritable (m : KeyManager) (kid : Value) (fields : Record) : Prop :=
  ∃ k text, m.keys.get? kid = some k ∧ m.privateKeys.get? kid = some text ∧ k.type = .secp256k1 ∧ UnwritableBy text fields

theorem encodable_read {members : Record} {t : Transaction} (read : Transaction.ofMembers? members = some t) :
    t.encodable = false ↔ Transaction.NamesNegative members ∨ t.StraysSlot := by
  rw [Transaction.encodable_iff, Transaction.negative_named (Transaction.read_of_members read)]

theorem responds_of_objection {e : Error} (kind : e.kind = .signing) : Responds (.error e) := .inr ⟨e, rfl, kind⟩

theorem sign_transaction_encodable (key : Bytes) {t : Transaction} (fits : t.encodable = true) :
    Responds (signTransaction key t) := by
  rw [signTransaction, if_pos fits]
  cases Ecdsa.sign Curve.secp256k1 key t.digest with
  | none => exact responds_of_objection rfl
  | some g => exact .inl ⟨_, rfl⟩

theorem sign_transaction_unencodable (key : Bytes) {t : Transaction} (unfit : t.encodable = false) :
    signTransaction key t = .error (.foreign .unserializable) := by
  rw [signTransaction, unfit]
  rfl

theorem sign_with_unwritable {text : String} {fields : Record} (unwritable : UnwritableBy text fields) :
    signWith text (.record fields) = .error (.foreign .unserializable) := by
  obtain ⟨⟨key, bytes⟩, members, t, converted, read, number⟩ := unwritable
  have unfit := (encodable_read read).mpr number
  simp only [signWith, Ethereum.unsigned, converted, bytes, read]
  exact sign_transaction_unencodable key unfit

theorem sign_with_writable {text : String} {fields : Record} (writable : ¬ UnwritableBy text fields) :
    Responds (signWith text (.record fields)) := by
  cases bytes : signingKey? text with
  | none =>
      rw [sign_with_nothing bytes]
      exact responds_of_objection rfl
  | some key =>
      cases converted : Ethereum.unsignedOf fields with
      | error e =>
          cases Ethereum.read_quantities_error converted
          simp only [signWith, Ethereum.unsigned, converted]
          exact responds_of_objection rfl
      | ok members =>
          cases read : Transaction.ofMembers? members with
          | none =>
              simp only [signWith, Ethereum.unsigned, converted, bytes, read]
              exact responds_of_objection rfl
          | some t =>
              have fits : t.encodable = true := by
                by_contra unfit
                have number := (encodable_read read).mp (Bool.eq_false_of_not_eq_true unfit)
                exact writable ⟨⟨key, bytes⟩, members, t, converted, read, number⟩
              simp only [signWith, Ethereum.unsigned, converted, bytes, read]
              exact sign_transaction_encodable key fits

theorem responds_of_kind {e : Error} (other : e.kind ≠ .signing) : ¬ Responds (.error e) := by
  rintro (⟨t, signed⟩ | ⟨cause, same, kind⟩)
  · cases signed
  · cases same
    exact other kind

theorem sign_unhashable (m : KeyManager) {kid : Value} (unfit : kid.hashable = false) (tx : Value) :
    (m.sign kid tx).1 = .error .wrongType := by
  rw [sign, unfit]
  rfl

theorem sign_unwritable {m : KeyManager} {kid : Value} {fields : Record} (scalar : kid.hashable = true)
    (unwritable : m.Unwritable kid fields) : (m.sign kid (.record fields)).1 = .error (.foreign .unserializable) := by
  obtain ⟨k, text, descriptor, privateKey, type, unwritable⟩ := unwritable
  rw [sign, if_pos scalar, descriptor, privateKey]
  simp only [type]
  exact sign_with_unwritable unwritable

theorem sign_writable {m : KeyManager} {kid : Value} {fields : Record} (scalar : kid.hashable = true)
    (writable : ¬ m.Unwritable kid fields) : Responds (m.sign kid (.record fields)).1 := by
  rw [sign, if_pos scalar]
  cases descriptor : m.keys.get? kid with
  | none => exact responds_of_objection rfl
  | some k =>
      cases privateKey : m.privateKeys.get? kid with
      | none => exact responds_of_objection rfl
      | some text =>
          cases type : k.type with
          | secp256r1 =>
              simp only [type]
              exact responds_of_objection rfl
          | secp256k1 =>
              simp only [type]
              exact sign_with_writable fun found => writable ⟨k, text, descriptor, privateKey, type, found⟩

-- Every request ends in one of three ways, and each way has a condition of its own.
theorem signer_responds_iff (m : KeyManager) (kid : Value) (fields : Record) :
    (Responds (m.sign kid (.record fields)).1 ↔ kid.hashable = true ∧ ¬ m.Unwritable kid fields) ∧
      ((m.sign kid (.record fields)).1 = .error (.foreign .unserializable) ↔
        kid.hashable = true ∧ m.Unwritable kid fields) ∧
      ((m.sign kid (.record fields)).1 = .error .wrongType ↔ kid.hashable = false) := by
  have unserializable : ¬ Responds (.error (.foreign .unserializable)) := responds_of_kind nofun
  have wrongType : ¬ Responds (.error .wrongType) := responds_of_kind nofun
  have apart : Error.foreign .unserializable ≠ .wrongType := nofun
  cases scalar : kid.hashable with
  | false => simp [sign_unhashable m scalar, wrongType, apart.symm]
  | true =>
      by_cases unwritable : m.Unwritable kid fields
      · simp [sign_unwritable scalar unwritable, unserializable, unwritable, apart]
      · have responds := sign_writable scalar unwritable
        have ends (e : Error) (passed : ¬ Responds (.error e)) : (m.sign kid (.record fields)).1 ≠ .error e :=
          fun same => passed (same ▸ responds)
        simp [responds, unwritable, ends _ unserializable, ends _ wrongType]

-- A nonce below zero, in a transaction that is fine otherwise.
def negativeNonce : Record := [("nonce", .text "-1"), ("gasPrice", .text "0x0"), ("gasLimit", .text "0x5208")]

theorem negative_nonce_passed_on :
    let imported := empty.importKey (unitKey wholeUnit)
    let answered := (imported.2.sign (.text "k") (.record negativeNonce)).1
    imported.1.result = .ok unitDescriptor ∧ answered = .error (.foreign .unserializable) ∧ ¬ Responds answered := by
  intro imported answered
  obtain ⟨returned, signsAs⟩ := whole_unit_signs
  have converted : Ethereum.unsigned (.record negativeNonce) =
      .ok [("nonce", .int (-1)), ("gasPrice", .int 0), ("gas", .int 21000)] := by rfl
  have read : Transaction.ofMembers? [("nonce", .int (-1)), ("gasPrice", .int 0), ("gas", .int 21000)] =
      some ⟨.legacy, none, -1, [0], 21000, [], 0, [], []⟩ := by rfl
  have answer : answered = .error (.foreign .unserializable) := by
    refine (signsAs _).trans ?_
    simp only [signNumber, converted, read]
    exact sign_transaction_unencodable _ rfl
  refine ⟨returned, answer, ?_⟩
  rw [answer]
  exact responds_of_kind nofun

end EbsiDid.KeyManager
