import EbsiDid.Json.Reader
import Mathlib.Algebra.Group.Nat.Defs

set_option autoImplicit false

/-!
Numerals in base ten, written and read back. The digits of a number are read as that number; with a point or
an exponent behind them they are read as the numeral of these parts.
-/
namespace EbsiDid.Number

theorem of_digits_append (base : Nat) (high low : List Nat) :
    ofDigits base (high ++ low) = ofDigits base high * base ^ low.length + ofDigits base low := by
  have from_start (start : Nat) (digits : List Nat) : digits.foldl (fun acc d => acc * base + d) start =
      start * base ^ digits.length + ofDigits base digits := by
    induction digits generalizing start with
    | nil => simp [ofDigits]
    | cons d rest ih =>
        have zero : ofDigits base (d :: rest) = (0 * base + d) * base ^ rest.length + ofDigits base rest := ih (0 * base + d)
        rw [List.foldl_cons, ih, zero, List.length_cons, Nat.pow_succ]
        simp only [Nat.zero_mul, Nat.zero_add, Nat.add_mul, Nat.mul_assoc, Nat.add_assoc, Nat.mul_comm base]
  rw [ofDigits, List.foldl_append, from_start]
  rfl

theorem of_digits_zeros (base n : Nat) : ofDigits base (List.replicate n 0) = 0 := by
  induction n with
  | zero => rfl
  | succ n ih =>
      rw [List.replicate_succ', of_digits_append, ih, Nat.zero_mul, Nat.zero_add]
      exact Nat.zero_mul base

theorem of_digits_leading_zeros (base n : Nat) (digits : List Nat) :
    ofDigits base (List.replicate n 0 ++ digits) = ofDigits base digits := by
  rw [of_digits_append, of_digits_zeros, Nat.zero_mul, Nat.zero_add]

end EbsiDid.Number

namespace EbsiDid.Json

open Number

def digitValue (c : Char) : Nat := c.toNat - 0x30

def Digits (chars : List Char) : Prop := ∀ c ∈ chars, c.isDigit = true

instance (chars : List Char) : Decidable (Digits chars) := decidable_of_iff _ List.all_eq_true

theorem ascii_digit {c : Char} (digit : c.isDigit = true) : asciiDigit? c = some (digitValue c) := by
  simp only [Char.isDigit, Bool.and_eq_true, decide_eq_true_eq] at digit
  exact if_pos digit

theorem not_ascii_digit {c : Char} (other : c.isDigit = false) : asciiDigit? c = none := by
  apply if_neg
  intro digit
  simp only [Char.isDigit, Bool.and_eq_false_iff, decide_eq_false_iff_not] at other
  cases other with
  | inl low => exact low digit.1
  | inr high => exact high digit.2

-- Nothing more of the digits before it.
def Apart (rest : List Char) : Prop := ∀ c more, rest = c :: more → c.isDigit = false

theorem apart_nil : Apart [] := nofun

theorem apart_cons {c : Char} (other : c.isDigit = false) (rest : List Char) : Apart (c :: rest) := by
  intro d more same
  cases same
  exact other

theorem leading_digits {ds : List Char} (digits : Digits ds) {rest : List Char} (apart : Apart rest) :
    leadingDigits asciiDigit? (ds ++ rest) = (ds.map digitValue, rest) := by
  induction ds with
  | nil =>
      cases rest with
      | nil => rfl
      | cons c more =>
          rw [List.nil_append, leadingDigits, not_ascii_digit (apart c more rfl)]
          rfl
  | cons d more ih =>
      rw [List.cons_append, leadingDigits, ascii_digit (digits d List.mem_cons_self),
        ih fun c member => digits c (List.mem_cons_of_mem d member)]
      rfl

theorem digits_append {a b : List Char} (first : Digits a) (second : Digits b) : Digits (a ++ b) := by
  intro c member
  cases List.mem_append.mp member with
  | inl here => exact first c here
  | inr there => exact second c there

theorem digits_zeros (n : Nat) : Digits (List.replicate n '0') := by
  intro c member
  cases List.eq_of_mem_replicate member
  rfl

theorem values_zeros (n : Nat) : (List.replicate n '0').map digitValue = List.replicate n 0 := List.map_replicate

theorem digits_of (n : Nat) : Digits (digitsOf n) :=
  fun _ member => Nat.isDigit_of_mem_toDigits (by decide) (by decide) member

theorem digit_char_value {d : Nat} (small : d < 10) : digitValue d.digitChar = d := by
  have all : ∀ d : Fin 10, digitValue (Nat.digitChar d.val) = d.val := by decide
  exact all ⟨d, small⟩

theorem digits_of_value (n : Nat) : ofDigits 10 ((digitsOf n).map digitValue) = n := by
  induction n using Nat.strongRecOn with
  | ind n ih =>
      by_cases small : n < 10
      · rw [digitsOf, Nat.toDigits_of_lt_base small]
        simp [ofDigits, digit_char_value small]
      · have last : n % 10 < 10 := Nat.mod_lt n (by decide)
        have front := ih (n / 10) (by omega)
        rw [digitsOf] at front ⊢
        rw [Nat.toDigits_of_base_le (by decide) (by omega), List.map_append, of_digits_append, front]
        simp only [List.map_cons, List.map_nil, List.length_cons, List.length_nil, ofDigits, List.foldl_cons, List.foldl_nil,
          digit_char_value last]
        omega

-- Digits that start a numeral: zero stands alone.
def Started : List Char → Prop
  | [] => False
  | [_] => True
  | c :: _ :: _ => c ≠ '0'

theorem started_append {ds : List Char} (started : Started ds) (nonzero : ds ≠ ['0']) (more : List Char) :
    Started (ds ++ more) := by
  match ds, started with
  | [a], _ =>
      cases more with
      | nil => trivial
      | cons b rest =>
          intro same
          exact nonzero (congrArg (fun c => [c]) same)
  | _ :: _ :: _, first => exact first

theorem digits_of_ne_zero {n : Nat} (pos : 0 < n) : digitsOf n ≠ ['0'] := by
  intro same
  have value := digits_of_value n
  rw [same] at value
  have zero : ofDigits 10 (['0'].map digitValue) = 0 := rfl
  omega

theorem digits_of_started (n : Nat) : Started (digitsOf n) := by
  induction n using Nat.strongRecOn with
  | ind n ih =>
      by_cases small : n < 10
      · rw [digitsOf, Nat.toDigits_of_lt_base small]
        trivial
      · rw [digitsOf, Nat.toDigits_of_base_le (by decide) (by omega)]
        exact started_append (ih (n / 10) (by omega)) (digits_of_ne_zero (by omega)) _

/-! ### Numerals -/

theorem well_started {ds : List Char} (digits : Digits ds) (started : Started ds) : wellStarted (ds.map digitValue) = true := by
  match ds, started with
  | [c], _ =>
      simp only [List.map_cons, List.map_nil]
      cases digitValue c <;> rfl
  | c :: d :: more, first =>
      have digit := digits c List.mem_cons_self
      simp only [Char.isDigit, Bool.and_eq_true, decide_eq_true_eq, ge_iff_le, UInt32.le_iff_toNat_le] at digit
      have low : '0'.val.toNat = 0x30 := rfl
      have value : c.val.toNat = c.toNat := rfl
      have other : c.toNat ≠ 0x30 := fun same => first (Char.ext (UInt32.toNat_inj.mp same))
      have above : digitValue c = (c.toNat - 0x31) + 1 := by
        unfold digitValue
        omega
      rw [List.map_cons, above]
      rfl

theorem number_token_started (negative : Bool) {ds : List Char} (digits : Digits ds) (started : Started ds) {rest : List Char}
    (apart : Apart rest) : numberToken negative (ds ++ rest) = numeralToken negative (ds.map digitValue) rest := by
  rw [numberToken, leading_digits digits apart]
  exact if_pos (well_started digits started)

theorem number_token_integral (negative : Bool) {ds : List Char} (digits : Digits ds) (started : Started ds)
    (short : ds.length ≤ digitLimit) :
    numberToken negative ds = .scalar (.int (negateIf negative (ofDigits 10 (ds.map digitValue)))) := by
  have whole := number_token_started negative digits started apart_nil
  rw [List.append_nil] at whole
  rw [whole]
  exact if_neg (by rw [List.length_map]; omega)

theorem number_token_pointed (negative : Bool) {ds ps : List Char} (digits : Digits ds) (started : Started ds)
    (part : Digits ps) (some_part : ps ≠ []) {tail : List Char} (apart : Apart tail) {e : Int}
    (exponent : exponent? asciiDigit? tail = some e) :
    numberToken negative (ds ++ '.' :: (ps ++ tail)) =
      .scalar (.real ((Numeral.mk (ds.map digitValue) (ps.map digitValue) e).toBinary64 negative)) := by
  have nonempty : (ps.map digitValue).isEmpty = false := by
    cases ps with
    | nil => exact absurd rfl some_part
    | cons _ _ => rfl
  rw [number_token_started negative digits started (apart_cons rfl _)]
  simp only [numeralToken, leading_digits part apart, nonempty, exponent]
  rfl

theorem number_token_exponent (negative : Bool) {ds : List Char} (digits : Digits ds) (started : Started ds) {tail : List Char}
    {e : Int} (exponent : exponent? asciiDigit? ('e' :: tail) = some e) :
    numberToken negative (ds ++ 'e' :: tail) =
      .scalar (.real ((Numeral.mk (ds.map digitValue) [] e).toBinary64 negative)) := by
  rw [number_token_started negative digits started (apart_cons rfl _)]
  simp only [numeralToken]
  split
  · rename_i same
    cases same
  · rename_i same
    cases same
  · rw [exponent]

end EbsiDid.Json
