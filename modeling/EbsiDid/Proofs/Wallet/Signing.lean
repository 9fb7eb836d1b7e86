import EbsiDid.Proofs.Ethereum.Request
import EbsiDid.Proofs.Wallet.Material

set_option autoImplicit false

/-!
Signatures with keys that were imported. An import reads a private key as a numeral of any length; a signature takes
it as the digits of 32 bytes. Both come to one number where the text has as many digits, and a key whose text has not
signs nothing.
-/
namespace EbsiDid.KeyManager

/-! ### The text of a private key, read in both ways -/

-- The digits of 32 bytes. The first may be left out if it is zero.
def Legible (text : String) : Prop := ∃ ds, Number.Digits ds text.toList ∧ (ds.length = 63 ∨ ds.length = 64)

theorem hex_text_iff {chars : List Char} :
    Ethereum.Transaction.isHexText chars = true ↔ ∃ ds, Number.Digits ds chars := by
  induction chars with
  | nil => exact ⟨fun _ => ⟨[], .nil⟩, fun _ => rfl⟩
  | cons c rest ih =>
      rw [Ethereum.Transaction.isHexText, List.all_cons, Bool.and_eq_true, ← Ethereum.Transaction.isHexText, ih,
        Option.isSome_iff_exists]
      constructor
      · rintro ⟨⟨d, first⟩, ds, digits⟩
        exact ⟨d :: ds, .cons (Hex.digit_iff.mp first) digits⟩
      · rintro ⟨ds, digits⟩
        cases digits with
        | cons first others => exact ⟨⟨_, Hex.digit_iff.mpr first⟩, _, others⟩

-- An odd number of digits gets a zero in front, which does not change what they spell.
theorem padded_digits {ds : List Nat} {chars : List Char} (digits : Number.Digits ds chars) :
    ∃ bytes, Hex.decodeChars (if chars.length % 2 = 0 then chars else '0' :: chars) = some bytes ∧
      Encoding.toNat bytes = Number.ofDigits 16 ds ∧ 2 * bytes.length = ds.length + ds.length % 2 := by
  have length : ds.length = chars.length := digits.length_eq
  by_cases even : ds.length % 2 = 0
  · obtain ⟨bytes, spelt, same⟩ := Number.digits_spelt digits even
    rw [← length, if_pos even]
    refine ⟨bytes, Hex.decode_chars_of_spelt spelt, ?_, ?_⟩
    · rw [← Number.halves_value, same]
    · rw [← Number.halves_length, same, even, Nat.add_zero]
  · have zero : Hex.IsDigit 0 '0' := by decide
    have padded : (0 :: ds).length % 2 = 0 := by
      rw [List.length_cons]
      omega
    obtain ⟨bytes, spelt, same⟩ := Number.digits_spelt (.cons zero digits) padded
    rw [← length, if_neg even]
    refine ⟨bytes, Hex.decode_chars_of_spelt spelt, ?_, ?_⟩
    · rw [← Number.halves_value, same]
      exact Number.of_digits_leading_zeros 16 1 ds
    · rw [← Number.halves_length, same, List.length_cons]
      omega

theorem signing_key_of_digits {text : String} {ds : List Nat} (digits : Number.Digits ds text.toList) :
    signingKey? text = if ds.length = 63 ∨ ds.length = 64 then some (Encoding.bigEndian 32 (Number.ofDigits 16 ds)) else none := by
  obtain ⟨bytes, decoded, value, length⟩ := padded_digits digits
  have whole : bytes.length = 32 ↔ ds.length = 63 ∨ ds.length = 64 := by omega
  simp only [signingKey?, hex_text_iff.mpr ⟨ds, digits⟩, decoded, bind, Option.bind, pure, whole, Bool.not_true, Bool.false_eq_true,
    if_false]
  split
  · rename_i sized
    rw [← value, Encoding.bigEndian_toNat (whole.mpr sized)]
  · rfl

theorem signing_key_of_other {text : String} (other : ¬ ∃ ds, Number.Digits ds text.toList) : signingKey? text = none := by
  have unread : Ethereum.Transaction.isHexText text.toList = false := Bool.not_eq_true _ ▸ fun hex => other (hex_text_iff.mp hex)
  simp [signingKey?, unread]

section Texts

variable {text : String} {n : Nat}

-- Where a signature takes the text, it takes it for the number that was imported.
theorem signing_key_legible (read : Number.hexadecimal? text = some (n : Int)) (legible : Legible text) :
    signingKey? text = some (Encoding.bigEndian 32 n) := by
  obtain ⟨ds, digits, length⟩ := legible
  have nonempty : ds ≠ [] := by
    rintro rfl
    rcases length with short | long
    · cases short
    · cases long
  have value := Number.hexadecimal_digits digits nonempty
  rw [String.ofList_toList, read, Option.some.injEq, Int.ofNat_inj] at value
  rw [signing_key_of_digits digits, if_pos length, value]

theorem legible_iff (text : String) : Legible text ↔
    Ethereum.Transaction.isHexText text.toList = true ∧ (text.toList.length = 63 ∨ text.toList.length = 64) := by
  rw [hex_text_iff]
  constructor
  · rintro ⟨ds, digits, length⟩
    exact ⟨⟨ds, digits⟩, digits.length_eq ▸ length⟩
  · rintro ⟨⟨ds, digits⟩, length⟩
    exact ⟨ds, digits, digits.length_eq ▸ length⟩

instance (text : String) : Decidable (Legible text) := decidable_of_iff _ (legible_iff text).symm

theorem signing_key_illegible (illegible : ¬ Legible text) : signingKey? text = none := by
  by_cases digits : ∃ ds, Number.Digits ds text.toList
  · obtain ⟨ds, digits⟩ := digits
    rw [signing_key_of_digits digits, if_neg fun length => illegible ⟨ds, digits, length⟩]
  · exact signing_key_of_other digits

end Texts

/-! ### A key that stays where it is -/

section Stays

variable {m : KeyManager} {k : KeyDescriptor} {text : String}

theorem holds_erase_apart (held : m.Holds k text) {kid : Value} (apart : kid.alike k.kid = false) :
    (m.deleteKey kid).2.Holds k text := by
  by_cases scalar : kid.hashable = true
  · simp only [deleteKey, scalar, Bool.true_or, if_true]
    refine ⟨held.scalar, ?_, ?_⟩
    · rw [Entries.get_erase scalar held.scalar, apart]
      exact held.descriptor
    · rw [Entries.get_erase scalar held.scalar, apart]
      exact held.privateKey
  · have some_key : m.keys.isEmpty = false := by
      cases keys : m.keys with
      | nil =>
          have found := held.descriptor
          rw [keys] at found
          cases found
      | cons entry rest => rfl
    simp only [deleteKey, scalar, some_key, Bool.or_false]
    exact held

theorem holds_serve (held : m.Holds k text) (ask : Ask) (apart : Served.concerns k.kid ⟨ask, (m.serve ask).1⟩ = false) :
    (m.serve ask).2.Holds k text := by
  cases ask with
  | importKey key =>
      by_cases derives : ∃ other otherText, Derives key other otherText
      · obtain ⟨other, otherText, derives⟩ := derives
        simp only [serve, import_key_derived derives m] at apart ⊢
        exact holds_store_apart held derives.scalar apart
      · obtain ⟨e, refused⟩ := import_key_underived derives
        simp only [serve, refused m]
        exact held
  | getKey kid => exact held
  | deleteKey kid => exact holds_erase_apart held apart
  | sign kid transaction =>
      obtain ⟨keys, privateKeys⟩ := sign_keys m kid transaction
      exact holds_unchanged held keys privateKeys

theorem history_kept (h : History) (m : KeyManager) (asks : List Ask) : ∀ s ∈ h, s ∈ (serveAll (h, m) asks).1 := by
  induction asks generalizing h m with
  | nil => exact fun s member => member
  | cons ask rest ih => exact fun s member => ih _ _ s (List.mem_append_left _ member)

theorem holds_run (held : m.Holds k text) (h : History) (asks : List Ask)
    (apart : ∀ s ∈ (serveAll (h, m) asks).1, s.concerns k.kid = false) : (serveAll (h, m) asks).2.Holds k text := by
  induction asks generalizing h m with
  | nil => exact held
  | cons ask rest ih =>
      have here := apart ⟨ask, (m.serve ask).1⟩ (history_kept _ _ rest _ (List.mem_append_right h List.mem_cons_self))
      exact ih (holds_serve held ask here) _ apart

end Stays

/-! ### What an imported key signs -/

-- The signature of a number, whatever text it was imported as.
def signNumber (n : Nat) (tx : Value) : Except Error SignedTransaction :=
  match Ethereum.unsigned tx with
  | .error e => if e.kind = .missingAttribute then .error e else .error .couldNotSign
  | .ok members =>
      match Ethereum.Transaction.ofMembers? members with
      | some t => signTransaction (Encoding.bigEndian 32 n) t
      | none => .error .couldNotSign

def SignsAs (m : KeyManager) (kid : Value) (n : Nat) : Prop := ∀ tx, (m.sign kid tx).1 = signNumber n tx

def SignsNothing (m : KeyManager) (kid : Value) : Prop := ∀ fields, (m.sign kid (.record fields)).1 = .error .couldNotSign

theorem sign_with_number {text : String} {n : Nat} (key : signingKey? text = some (Encoding.bigEndian 32 n)) (tx : Value) :
    signWith text tx = signNumber n tx := by
  unfold signWith signNumber
  rw [key]
  cases Ethereum.unsigned tx with
  | error e => rfl
  | ok members => cases read : Ethereum.Transaction.ofMembers? members <;> simp only [read]

theorem sign_with_nothing {text : String} (key : signingKey? text = none) (fields : Record) :
    signWith text (.record fields) = .error .couldNotSign := by
  unfold signWith
  rw [key]
  cases read : Ethereum.unsigned (.record fields) with
  | error e =>
      cases Ethereum.read_quantities_error read
      rfl
  | ok members => rfl

theorem derives_type {key : ImportableKey} {k : KeyDescriptor} {text : String} (derives : Derives key k text) :
    k.type = key.type := by
  obtain ⟨_, _, rfl⟩ := derives.descriptor
  rfl

-- What comes of a private key that is given as a text: its number, the public key of the number, and whether the
-- key signs under its kid.
structure Signs (later : KeyManager) (k : KeyDescriptor) (given : String) (n : Nat) : Prop where
  read : Number.hexadecimal? (Hex.stripMark given) = some (n : Int)
  range : InRange .secp256k1 n
  publicKey : ∃ q, Curve.secp256k1.ofScalar? n = some q ∧ k.publicKeyHex = .text (Hex.encode (Sec1.compressed q))
  legible : Legible (Hex.stripMark given) →
    signingKey? (Hex.stripMark given) = some (Encoding.bigEndian 32 n) ∧ later.SignsAs k.kid n
  illegible : ¬ Legible (Hex.stripMark given) → signingKey? (Hex.stripMark given) = none ∧ later.SignsNothing k.kid

theorem signs_held {later : KeyManager} {key : ImportableKey} {k : KeyDescriptor} {given : String}
    (type : key.type = .secp256k1) (derives : Derives key k (Hex.stripMark given))
    (held : later.Holds k (Hex.stripMark given)) : ∃ n, later.Signs k given n := by
  have same : k.type = .secp256k1 := (derives_type derives).trans type
  obtain ⟨n, q, read, fits, multiple, publicKey⟩ := derived_of_derives derives
  rw [same] at fits multiple
  have range : InRange .secp256k1 n := by simpa [Curve.isScalar, InRange] using fits
  have whole : (n.toNat : Int) = n := Int.toNat_of_nonneg (Int.le_of_lt range.1)
  rw [← whole] at read range
  refine ⟨n.toNat, read, range, ⟨q, multiple, publicKey⟩, ?_, ?_⟩
  · intro legible
    have bytes := signing_key_legible read legible
    refine ⟨bytes, fun tx => ?_⟩
    rw [sign_held held same, sign_with_number bytes]
  · intro illegible
    have nothing := signing_key_illegible illegible
    refine ⟨nothing, fun fields => ?_⟩
    rw [sign_held held same, sign_with_nothing nothing]

-- The private key one, as a sample.
def unitKey (given : String) : ImportableKey :=
  ⟨.text "local", .secp256k1, .text given, .text "k", PurposeSet.defaultFor .secp256k1, .bool false⟩

def unitDescriptor : KeyDescriptor :=
  ⟨.text "k", .secp256k1, .text (Hex.encode (Sec1.compressed (basePoint .secp256k1))), .text "local",
    PurposeSet.defaultFor .secp256k1, .bool false⟩

theorem unit_key_derives (given : String) (unit : scalar? (Hex.stripMark given) .secp256k1 = some 1) :
    Derives (unitKey given) unitDescriptor (Hex.stripMark given) :=
  derives_unit (by decide) unit (.text "local") (PurposeSet.defaultFor .secp256k1) (.bool false)

theorem unit_signs (given : String) (unit : scalar? (Hex.stripMark given) .secp256k1 = some 1) :
    (empty.importKey (unitKey given)).1.result = .ok unitDescriptor ∧
      (empty.importKey (unitKey given)).2.Signs unitDescriptor given 1 := by
  have derives := unit_key_derives given unit
  rw [import_key_derived derives empty]
  obtain ⟨n, signs⟩ := signs_held rfl derives (holds_stored (m := empty) derives.scalar)
  have same := (scalar_iff.mp unit).1.symm.trans signs.read
  cases same
  exact ⟨rfl, signs⟩

def wholeUnit : String := "0000000000000000000000000000000000000000000000000000000000000001"

theorem whole_unit_signs : (empty.importKey (unitKey wholeUnit)).1.result = .ok unitDescriptor ∧
    (empty.importKey (unitKey wholeUnit)).2.SignsAs (.text "k") 1 := by
  obtain ⟨returned, signs⟩ := unit_signs wholeUnit (by decide +kernel)
  obtain ⟨_, signsAs⟩ := signs.legible (by decide +kernel)
  exact ⟨returned, signsAs⟩

-- Any requests may come in between that neither import under the kid nor delete it.
theorem signs_by_number (m : KeyManager) {key : ImportableKey} {k : KeyDescriptor} (type : key.type = .secp256k1)
    (imported : (m.importKey key).1.result = .ok k) (asks : List Ask)
    (apart : ∀ s ∈ (serveAll ([], (m.importKey key).2) asks).1, s.concerns k.kid = false) :
    ∃ given n, key.privateKeyHex = .text given ∧ (serveAll ([], (m.importKey key).2) asks).2.Signs k given n := by
  by_cases derives : ∃ other text, Derives key other text
  · obtain ⟨other, text, derives⟩ := derives
    rw [import_key_derived derives m] at imported apart ⊢
    cases imported
    have held := holds_run (holds_stored derives.scalar) [] asks apart
    obtain ⟨given, material, rfl⟩ := derives.material
    obtain ⟨n, signs⟩ := signs_held type derives held
    exact ⟨given, n, material, signs⟩
  · obtain ⟨e, refused⟩ := import_key_underived derives
    rw [refused m] at imported
    cases imported

-- One digit short of 32 bytes, behind a mark.
def shortenedUnit : String := "0X000000000000000000000000000000000000000000000000000000000000001"

theorem signs_by_number_shortened :
    let imported := empty.importKey (unitKey shortenedUnit)
    let asks : List Ask := [.getKey (.text "k"), .deleteKey (.text "other"), .sign (.text "k") .null]
    ((unitKey shortenedUnit).type = .secp256k1 ∧ imported.1.result = .ok unitDescriptor ∧
      ∀ s ∈ (serveAll ([], imported.2) asks).1, s.concerns unitDescriptor.kid = false) ∧
      Legible (Hex.stripMark shortenedUnit) ∧
      ∃ given n, (unitKey shortenedUnit).privateKeyHex = .text given ∧
        (serveAll ([], imported.2) asks).2.Signs unitDescriptor given n := by
  intro imported asks
  obtain ⟨returned, _⟩ := unit_signs shortenedUnit (by decide +kernel)
  have apart : ∀ s ∈ (serveAll ([], imported.2) asks).1, s.concerns unitDescriptor.kid = false := by
    intro s member
    simp only [asks, serveAll, List.nil_append, List.cons_append, List.mem_cons, List.not_mem_nil, or_false] at member
    rcases member with rfl | rfl | rfl <;> rfl
  exact ⟨⟨rfl, returned, apart⟩, by decide +kernel, signs_by_number empty rfl returned asks apart⟩

-- One digit is imported as the same key as 64 digits are, and signs nothing.
theorem single_digit_signs_nothing :
    let short := empty.importKey (unitKey "1")
    let whole := empty.importKey (unitKey wholeUnit)
    short.1.result = .ok unitDescriptor ∧ whole.1.result = .ok unitDescriptor ∧
      signingKey? (Hex.stripMark "1") = none ∧ short.2.SignsNothing (.text "k") ∧ whole.2.SignsAs (.text "k") 1 := by
  intro short whole
  obtain ⟨shortReturned, shortSigns⟩ := unit_signs "1" (by decide +kernel)
  obtain ⟨nothing, silent⟩ := shortSigns.illegible (by decide +kernel)
  obtain ⟨wholeReturned, alike⟩ := whole_unit_signs
  exact ⟨shortReturned, wholeReturned, nothing, silent, alike⟩

end EbsiDid.KeyManager
