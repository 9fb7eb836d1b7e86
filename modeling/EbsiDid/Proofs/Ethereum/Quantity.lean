import EbsiDid.Proofs.Ethereum.Request
import EbsiDid.Proofs.Json.Records
import EbsiDid.Proofs.Number.Numeral

set_option autoImplicit false

/-!
Transactions of the registry in the form that signing takes. The form depends on the numbers that are meant and not on
their spelling; it is a form of its own, so that to bring it into form again changes nothing.
-/
namespace EbsiDid.Ethereum

/-! ### Quantities -/

-- A natural number as it may be spelt: itself, digits in base ten, or digits in base sixteen behind a mark.
inductive Spells : Value → Nat → Prop where
  | number (n : Nat) : Spells (.int n) n
  | decimal {chars : List Char} (digits : Json.Digits chars) (nonempty : chars ≠ [])
      (short : chars.length ≤ Number.digitLimit) :
      Spells (.text (String.ofList chars)) (Number.ofDigits 10 (chars.map Json.digitValue))
  | hexadecimal {x : Char} {ds : List Nat} {chars : List Char} (mark : x = 'x' ∨ x = 'X') (digits : Number.Digits ds chars)
      (nonempty : ds ≠ []) : Spells (.text (String.ofList ('0' :: x :: chars))) (Number.ofDigits 16 ds)

theorem quantity_spelt {v : Value} {n : Nat} (spelt : Spells v n) : quantity v = .ok (.int n) := by
  cases spelt with
  | number => rfl
  | decimal digits nonempty short =>
      have unmarked := Number.decimal_unmarked digits
      have read := Number.decimal_numeral digits nonempty short
      simp only [quantity, String.toList_ofList, unmarked, Bool.false_eq_true, if_false, read]
  | @hexadecimal x _ chars mark digits nonempty =>
      have marked : Hex.hasMark ('0' :: x :: chars) = true := by
        rcases mark with rfl | rfl <;> rfl
      have read := Number.hexadecimal_numeral mark digits nonempty
      simp only [quantity, String.toList_ofList, marked, if_true, read]

-- What a value is taken for, where it can be read.
def settled (v : Value) : Value := (quantity v).toOption.getD v

def Readable (v : Value) : Prop := ∃ w, quantity v = .ok w

theorem quantity_other {v : Value} (other : v.text? = none) : quantity v = .ok v := by
  cases v with
  | text s => cases other
  | _ => rfl

-- What was read is no text any more.
theorem quantity_again {v w : Value} (read : quantity v = .ok w) : quantity w = .ok w := by
  cases v with
  | text s =>
      rw [quantity] at read
      split at read <;> cases read
      rfl
  | _ =>
      cases read
      rfl

theorem settled_read {v w : Value} (read : quantity v = .ok w) : settled v = w := by
  rw [settled, read]
  rfl

/-! ### Quantities of a record -/

section Read

variable {names : List String} {tx r : Record}

theorem read_quantities_iff (names : List String) (tx : Record) :
    (∃ r, readQuantities names tx = .ok r) ↔ ∀ name ∈ names, ∀ v, tx.get? name = some v → Readable v := by
  induction names generalizing tx with
  | nil => exact ⟨fun _ => nofun, fun _ => ⟨tx, rfl⟩⟩
  | cons name rest ih =>
      rw [List.forall_mem_cons]
      cases found : tx.get? name with
      | none =>
          simp only [readQuantities, found]
          have missing : ∀ v, none = some v → Readable v := by
            intro v same
            cases same
          exact (ih tx).trans (iff_and_self.mpr fun _ => missing)
      | some v =>
          simp only [readQuantities, found]
          cases read : quantity v with
          | error e =>
              constructor
              · rintro ⟨r, refused⟩
                cases refused
              · rintro ⟨here, _⟩
                obtain ⟨w, readable⟩ := here v rfl
                rw [read] at readable
                cases readable
          | ok w =>
              refine (ih (tx.put name w)).trans ⟨fun later => ⟨?_, ?_⟩, fun both other member u => ?_⟩
              · rintro _ ⟨⟩
                exact ⟨w, read⟩
              · intro other member u named
                by_cases same : other = name
                · subst same
                  rw [found] at named
                  cases named
                  exact ⟨w, read⟩
                · exact later other member u (by rwa [Record.get?_put, if_neg same])
              · rw [Record.get?_put]
                split
                · rintro ⟨⟩
                  exact ⟨w, quantity_again read⟩
                · exact both.2 other member u

theorem read_quantities_keys (read : readQuantities names tx = .ok r) : r.keys = tx.keys := by
  induction names generalizing tx with
  | nil =>
      cases read
      rfl
  | cons name rest ih =>
      rw [readQuantities] at read
      split at read
      · exact ih read
      · rename_i v found
        cases quantity : quantity v with
        | error e =>
            rw [quantity] at read
            cases read
        | ok w =>
            rw [quantity] at read
            have present : name ∈ tx.keys := (Record.mem_keys_iff name tx).mpr (Option.isSome_iff_exists.mpr ⟨v, found⟩)
            rw [ih read, Record.keys_put, if_pos present]

theorem read_quantities_members (read : readQuantities names tx = .ok r) (name : String) :
    r.get? name = if name ∈ names then (tx.get? name).map settled else tx.get? name := by
  induction names generalizing tx with
  | nil =>
      cases read
      rfl
  | cons first rest ih =>
      rw [readQuantities] at read
      split at read
      · rename_i absent
        rw [ih read]
        by_cases same : name = first
        · subst same
          simp [absent]
        · simp [same]
      · rename_i v found
        cases quantity : quantity v with
        | error e =>
            rw [quantity] at read
            cases read
        | ok w =>
            rw [quantity] at read
            rw [ih read, Record.get?_put]
            by_cases same : name = first
            · subst same
              simp [found, settled_read quantity, settled_read (quantity_again quantity)]
            · simp [same]

theorem read_quantities_fixed (fixed : ∀ name ∈ names, ∀ v, tx.get? name = some v → quantity v = .ok v) :
    readQuantities names tx = .ok tx := by
  induction names with
  | nil => rfl
  | cons name rest ih =>
      obtain ⟨here, later⟩ := List.forall_mem_cons.mp fixed
      rw [readQuantities]
      split
      · exact ih later
      · rename_i v found
        rw [here v found]
        exact (congrArg (readQuantities rest) (Record.put_present found)).trans (ih later)

end Read

/-! ### A transaction in form -/

-- The member that a quantity is taken from: the limit of gas goes before gas.
def asked (tx : Record) (name : String) : Option Value :=
  if name = "gas" then (tx.get? "gasLimit").or (tx.get? "gas") else tx.get? name

-- A transaction with its members in their places, before any quantity is read.
def placed (tx : Record) : Record := renameGas (tx.erase "from")

theorem placed_members (tx : Record) (name : String) :
    (placed tx).get? name = if name = "from" ∨ name = "gasLimit" then none else asked tx name := by
  have apart : ("gasLimit" : String) ≠ "from" := by decide
  have gas : ("gas" : String) ≠ "from" ∧ ("gas" : String) ≠ "gasLimit" := by decide
  have limit : (tx.erase "from").get? "gasLimit" = tx.get? "gasLimit" := by
    rw [Record.get?_erase, if_neg apart]
  rw [placed, renameGas, limit, asked]
  cases found : tx.get? "gasLimit" with
  | none =>
      by_cases sender : name = "from"
      · simp [sender, Record.get?_erase]
      · by_cases limited : name = "gasLimit"
        · subst limited
          simp [Record.get?_erase, found]
        · by_cases named : name = "gas" <;> simp [Record.get?_erase, sender, limited, named]
  | some v =>
      by_cases named : name = "gas"
      · subst named
        simp [Record.get?_put, gas]
      · by_cases limited : name = "gasLimit"
        · subst limited
          simp [Record.get?_put, Record.get?_erase]
        · by_cases sender : name = "from" <;> simp [Record.get?_put, Record.get?_erase, named, limited, sender]

theorem placed_keys {a b : Record} (same : (a.erase "from").keys = (b.erase "from").keys) : (placed a).keys = (placed b).keys := by
  have limit : ((a.erase "from").get? "gasLimit").isSome = ((b.erase "from").get? "gasLimit").isSome := by
    rw [Bool.eq_iff_iff, ← Record.mem_keys_iff, ← Record.mem_keys_iff, same]
  unfold placed renameGas
  cases first : (a.erase "from").get? "gasLimit" with
  | none =>
      cases second : (b.erase "from").get? "gasLimit" with
      | none => exact same
      | some w =>
          rw [first, second] at limit
          cases limit
  | some v =>
      cases second : (b.erase "from").get? "gasLimit" with
      | none =>
          rw [first, second] at limit
          cases limit
      | some w => simp only [Record.keys_put, Record.keys_erase, same]

theorem placed_once {tx : Record} (once : tx.keys.Nodup) : (placed tx).keys.Nodup := by
  have erased (key : String) {r : Record} (once : r.keys.Nodup) : (r.erase key).keys.Nodup := by
    rw [Record.keys_erase]
    exact once.filter _
  unfold placed renameGas
  split
  · exact Record.put_once (erased "gasLimit" (erased "from" once)) "gas" _
  · exact erased "from" once

theorem quantity_names_placed : ∀ name ∈ quantityNames, ¬ (name = "from" ∨ name = "gasLimit") := by decide

theorem unsigned_iff (tx : Record) :
    (∃ r, unsignedOf tx = .ok r) ↔ ∀ name ∈ quantityNames, ∀ v, asked tx name = some v → Readable v := by
  refine (read_quantities_iff quantityNames (placed tx)).trans (forall₂_congr fun name quantity => ?_)
  rw [placed_members, if_neg (quantity_names_placed name quantity)]

-- What is found under each name of a transaction in form.
theorem unsigned_members {tx r : Record} (read : unsignedOf tx = .ok r) (name : String) :
    r.get? name = if name = "from" ∨ name = "gasLimit" then none
      else if name ∈ quantityNames then (asked tx name).map settled else asked tx name := by
  have members : r.get? name = if name ∈ quantityNames then ((placed tx).get? name).map settled else (placed tx).get? name :=
    read_quantities_members read name
  rw [members, placed_members]
  by_cases moved : name = "from" ∨ name = "gasLimit"
  · rw [if_pos moved]
    simp [moved]
  · simp only [if_neg moved]

theorem unsigned_keys {tx r : Record} (read : unsignedOf tx = .ok r) : r.keys = (placed tx).keys := read_quantities_keys read

theorem unsigned_again {tx r : Record} (read : unsignedOf tx = .ok r) : unsignedOf r = .ok r := by
  have sender : r.get? "from" = none := unsigned_members read "from"
  have limit : r.get? "gasLimit" = none := unsigned_members read "gasLimit"
  have kept : placed r = r := by
    rw [placed, Record.erase_absent sender, renameGas, limit]
  refine (congrArg (readQuantities quantityNames) kept).trans (read_quantities_fixed fun name quantity v found => ?_)
  rw [unsigned_members read, if_neg (quantity_names_placed name quantity), if_pos quantity, Option.map_eq_some_iff] at found
  obtain ⟨u, given, rfl⟩ := found
  obtain ⟨w, readable⟩ := (unsigned_iff tx).mp ⟨r, read⟩ name quantity u given
  rw [settled_read readable]
  exact quantity_again readable

/-! ### Other spellings of one transaction -/

-- The same value, or the same number in two spellings.
def SameQuantity (a b : Option Value) : Prop := a = b ∨ ∃ v w n, a = some v ∧ b = some w ∧ Spells v n ∧ Spells w n

-- Two transactions that differ in nothing but the sender and the spelling of their quantities.
structure Alike (a b : Record) : Prop where
  quantities : ∀ name ∈ "gasLimit" :: quantityNames, SameQuantity (a.get? name) (b.get? name)
  others : ∀ name, name ≠ "from" → name ∉ "gasLimit" :: quantityNames → a.get? name = b.get? name

theorem same_settled {a b : Option Value} (same : SameQuantity a b) : a.map settled = b.map settled := by
  rcases same with rfl | ⟨v, w, n, rfl, rfl, first, second⟩
  · rfl
  · rw [Option.map_some, Option.map_some, settled_read (quantity_spelt first), settled_read (quantity_spelt second)]

theorem same_readable {a b : Option Value} (same : SameQuantity a b) :
    (∀ v, a = some v → Readable v) ↔ ∀ w, b = some w → Readable w := by
  rcases same with rfl | ⟨v, w, n, rfl, rfl, first, second⟩
  · rfl
  · constructor
    · rintro _ _ ⟨⟩
      exact ⟨_, quantity_spelt second⟩
    · rintro _ _ ⟨⟩
      exact ⟨_, quantity_spelt first⟩

section Alike

variable {a b : Record} (alike : Alike a b)

include alike

theorem asked_alike {name : String} (quantity : name ∈ quantityNames) : SameQuantity (asked a name) (asked b name) := by
  have member : name ∈ "gasLimit" :: quantityNames := List.mem_cons_of_mem _ quantity
  by_cases gas : name = "gas"
  · rw [asked, asked, if_pos gas, if_pos gas]
    have plain := alike.quantities "gas" (by decide)
    rcases alike.quantities "gasLimit" (by decide) with same | ⟨v, w, n, first, second, spelt⟩
    · rw [same]
      cases b.get? "gasLimit" with
      | none => exact plain
      | some v => exact .inl rfl
    · rw [first, second]
      exact .inr ⟨v, w, n, rfl, rfl, spelt⟩
  · rw [asked, asked, if_neg gas, if_neg gas]
    exact alike.quantities name member

theorem unsigned_returns_alike : (∃ r, unsignedOf a = .ok r) ↔ ∃ s, unsignedOf b = .ok s := by
  rw [unsigned_iff, unsigned_iff]
  exact forall₂_congr fun name quantity => same_readable (asked_alike alike quantity)

theorem unsigned_members_alike {r s : Record} (first : unsignedOf a = .ok r) (second : unsignedOf b = .ok s) (name : String) :
    r.get? name = s.get? name := by
  rw [unsigned_members first, unsigned_members second]
  by_cases moved : name = "from" ∨ name = "gasLimit"
  · rw [if_pos moved, if_pos moved]
  · by_cases quantity : name ∈ quantityNames
    · simp only [if_neg moved, if_pos quantity]
      exact same_settled (asked_alike alike quantity)
    · simp only [if_neg moved, if_neg quantity]
      obtain ⟨sender, limit⟩ := not_or.mp moved
      have gas : name ≠ "gas" := by
        rintro rfl
        exact quantity (by decide)
      rw [asked, asked, if_neg gas, if_neg gas]
      exact alike.others name sender (List.not_mem_cons_of_ne_of_not_mem limit quantity)

end Alike

-- The same failure, or the same members in one order or another.
inductive Agree : Except Error Record → Except Error Record → Prop where
  | failed (e : Error) : Agree (.error e) (.error e)
  | done {r s : Record} (members : ∀ name, r.get? name = s.get? name) : Agree (.ok r) (.ok s)

theorem unsigned_agree {a b : Record} (alike : Alike a b) : Agree (unsignedOf a) (unsignedOf b) := by
  have returns := unsigned_returns_alike alike
  cases first : unsignedOf a with
  | error e =>
      cases second : unsignedOf b with
      | error cause =>
          cases read_quantities_error first
          cases read_quantities_error second
          exact .failed _
      | ok s =>
          obtain ⟨r, read⟩ := returns.mpr ⟨s, second⟩
          rw [first] at read
          cases read
  | ok r =>
      cases second : unsignedOf b with
      | error cause =>
          obtain ⟨s, read⟩ := returns.mp ⟨r, first⟩
          rw [second] at read
          cases read
      | ok s => exact .done (unsigned_members_alike alike first second)

theorem unsigned_ordered {a b : Record} (alike : Alike a b) (once : a.keys.Nodup)
    (order : (a.erase "from").keys = (b.erase "from").keys) : unsignedOf a = unsignedOf b := by
  have agree := unsigned_agree alike
  generalize first : unsignedOf a = x at agree ⊢
  generalize second : unsignedOf b = y at agree ⊢
  cases agree with
  | failed e => rfl
  | done members =>
      have keys := (unsigned_keys first).trans ((placed_keys order).trans (unsigned_keys second).symm)
      have onceRead := unsigned_keys first ▸ placed_once once
      rw [Record.eq_of_members onceRead keys members]

-- What a transaction is brought into: every quantity that is spelt is its number, and the rest is as it was.
structure Converted (tx r : Record) : Prop where
  sender : r.get? "from" = none
  limit : r.get? "gasLimit" = none
  spelt : ∀ name ∈ quantityNames, ∀ v n, asked tx name = some v → Spells v n → r.get? name = some (.int n)
  unspelt : ∀ name ∈ quantityNames, ∀ v, asked tx name = some v → v.text? = none → r.get? name = some v
  absent : ∀ name ∈ quantityNames, asked tx name = none → r.get? name = none
  others : ∀ name, name ≠ "from" → name ∉ "gasLimit" :: quantityNames → r.get? name = tx.get? name

theorem unsigned_converted {tx r : Record} (read : unsignedOf tx = .ok r) : Converted tx r := by
  have quantity {name : String} (member : name ∈ quantityNames) : r.get? name = (asked tx name).map settled := by
    rw [unsigned_members read, if_neg (quantity_names_placed name member), if_pos member]
  refine ⟨unsigned_members read "from", unsigned_members read "gasLimit", ?_, ?_, ?_, ?_⟩
  · intro name member v n given spelt
    rw [quantity member, given, Option.map_some, settled_read (quantity_spelt spelt)]
  · intro name member v given other
    rw [quantity member, given, Option.map_some, settled_read (quantity_other other)]
  · intro name member given
    rw [quantity member, given]
    rfl
  · intro name sender unnamed
    have limit := List.ne_of_not_mem_cons unnamed
    have member := List.not_mem_of_not_mem_cons unnamed
    have gas : name ≠ "gas" := by
      rintro rfl
      exact member (by decide)
    rw [unsigned_members read, if_neg (not_or.mpr ⟨sender, limit⟩), if_neg member, asked, if_neg gas]

-- A transaction comes into form by the numbers that it means, whatever their spelling, and stays in form.
theorem quantities_by_number (tx : Record) :
    (∀ other, Alike tx other → Agree (unsigned (.record tx)) (unsigned (.record other)) ∧
      (tx.keys.Nodup → (tx.erase "from").keys = (other.erase "from").keys →
        unsigned (.record tx) = unsigned (.record other))) ∧
    ((∀ name ∈ quantityNames, ∀ v, asked tx name = some v → v.text? = none ∨ ∃ n, Spells v n) →
      ∃ r, unsigned (.record tx) = .ok r) ∧
    ∀ r, unsigned (.record tx) = .ok r → Converted tx r ∧ unsigned (.record r) = .ok r := by
  refine ⟨fun other alike => ⟨unsigned_agree alike, unsigned_ordered alike⟩, fun legible => ?_, fun r read => ?_⟩
  · refine (unsigned_iff tx).mpr fun name quantity v given => ?_
    rcases legible name quantity v given with other | ⟨n, spelt⟩
    · exact ⟨v, quantity_other other⟩
    · exact ⟨_, quantity_spelt spelt⟩
  · exact ⟨unsigned_converted read, unsigned_again read⟩

-- Base sixteen with marks and letters in either case, base ten with zeros in front, and two members for gas.
theorem quantities_by_number_respelled :
    let tx : Record := [("from", .text "0x7E"), ("nonce", .text "0x0A"), ("chainId", .text "006175"),
      ("gasLimit", .text "0X5208"), ("gas", .text "none"), ("data", .text "0x12")]
    let other : Record := [("nonce", .int 10), ("chainId", .text "0x181f"), ("gasLimit", .int 21000),
      ("gas", .text "none"), ("data", .text "0x12")]
    (Alike tx other ∧ tx.keys.Nodup ∧ (tx.erase "from").keys = (other.erase "from").keys) ∧
      unsigned (.record tx) = unsigned (.record other) ∧
      ∃ r, unsigned (.record tx) = .ok r ∧ Converted tx r ∧ unsigned (.record r) = .ok r := by
  intro tx other
  have nonce : Spells (.text "0x0A") 10 := @Spells.hexadecimal 'x' [0, 10] ['0', 'A'] (.inl rfl) (by decide) (by decide)
  have chain : Spells (.text "006175") 6175 := @Spells.decimal ['0', '0', '6', '1', '7', '5'] (by decide) (by decide) (by decide)
  have respelled : Spells (.text "0x181f") 6175 :=
    @Spells.hexadecimal 'x' [1, 8, 1, 15] ['1', '8', '1', 'f'] (.inl rfl) (by decide) (by decide)
  have limit : Spells (.text "0X5208") 21000 :=
    @Spells.hexadecimal 'X' [5, 2, 0, 8] ['5', '2', '0', '8'] (.inr rfl) (by decide) (by decide)
  have alike : Alike tx other := by
    refine ⟨?_, ?_⟩
    · simp only [quantityNames, List.forall_mem_cons]
      refine ⟨.inr ⟨_, _, 21000, rfl, rfl, limit, .number 21000⟩, .inr ⟨_, _, 10, rfl, rfl, nonce, .number 10⟩,
        .inr ⟨_, _, 6175, rfl, rfl, chain, respelled⟩, .inl rfl, .inl rfl, .inl rfl, .inl rfl, .inl rfl, .inl rfl, List.forall_mem_nil _⟩
    · intro name sender unnamed
      simp only [quantityNames, List.mem_cons, not_or] at unnamed
      simp [tx, other, Record.get?, sender.symm, unnamed.1, unnamed.2.1, unnamed.2.2.1, unnamed.2.2.2.1, eq_comm]
  have legible : ∀ name ∈ quantityNames, ∀ v, asked tx name = some v → v.text? = none ∨ ∃ n, Spells v n := by
    have absent {name : String} (missing : asked tx name = none) :
        ∀ v, asked tx name = some v → v.text? = none ∨ ∃ n, Spells v n := by
      intro v given
      rw [missing] at given
      cases given
    simp only [quantityNames, List.forall_mem_cons]
    refine ⟨?_, ?_, ?_, absent rfl, absent rfl, absent rfl, absent rfl, absent rfl, List.forall_mem_nil _⟩
    · rintro _ ⟨⟩
      exact .inr ⟨10, nonce⟩
    · rintro _ ⟨⟩
      exact .inr ⟨6175, chain⟩
    · rintro _ ⟨⟩
      exact .inr ⟨21000, limit⟩
  have once : tx.keys.Nodup := by decide
  obtain ⟨agreed, returns, settles⟩ := quantities_by_number tx
  obtain ⟨r, read⟩ := returns legible
  exact ⟨⟨alike, once, rfl⟩, (agreed other alike).2 once rfl, r, read, settles r read⟩

end EbsiDid.Ethereum
