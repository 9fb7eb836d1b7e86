import EbsiDid.Json.Writer
import EbsiDid.Proofs.Number.RealText

set_option autoImplicit false

/-!
Scalars as words: what is written for null, a truth value or a number is one word, and is read as that scalar.
-/
namespace EbsiDid.Json

open Number Binary64

/-! ### Words -/

def Wordy (chars : List Char) : Prop := ∀ c ∈ chars, isWordChar c = true

theorem wordy_nil : Wordy [] := nofun

theorem wordy_cons {c : Char} {rest : List Char} (first : isWordChar c = true) (later : Wordy rest) : Wordy (c :: rest) :=
  List.forall_mem_cons.mpr ⟨first, later⟩

theorem wordy_append {a b : List Char} (left : Wordy a) (right : Wordy b) : Wordy (a ++ b) :=
  List.forall_mem_append.mpr ⟨left, right⟩

-- What follows is not taken for a part of the word.
def Ends (rest : List Char) : Prop := ∀ c more, rest = c :: more → isWordChar c = false

theorem ends_nil : Ends [] := nofun

theorem ends_cons {c : Char} (other : isWordChar c = false) (rest : List Char) : Ends (c :: rest) := by
  intro d more same
  cases same
  exact other

theorem space_no_word {c : Char} (space : isSpace c = true) : isWordChar c = false := by
  simp only [isSpace, Bool.or_eq_true, decide_eq_true_eq] at space
  rcases space with ((rfl | rfl) | rfl) | rfl <;> rfl

theorem begin_word {c : Char} (word : isWordChar c = true) : begin c = ([], .word [c]) := by
  have quote : c ≠ '"' := by
    rintro rfl
    cases word
  have space : isSpace c = false := by
    by_contra blank
    exact absurd word (ne_true_of_eq_false (space_no_word (eq_true_of_ne_false blank)))
  unfold begin
  rw [space, if_neg Bool.false_ne_true, if_neg quote, word, if_pos rfl]

theorem tokens_inside_word {chars : List Char} (wordy : Wordy chars) (read rest : List Char) :
    tokensFrom (.word read) (chars ++ rest) = tokensFrom (.word (chars.reverse ++ read)) rest := by
  induction chars generalizing read with
  | nil => rfl
  | cons c more ih =>
      have here : advance (.word read) c = ([], .word (c :: read)) := if_pos (wordy c List.mem_cons_self)
      rw [List.cons_append, tokensFrom, here, List.reverse_cons, List.append_assoc]
      exact ih (fun d member => wordy d (List.mem_cons_of_mem c member)) (c :: read)

theorem tokens_of_word {chars : List Char} (wordy : Wordy chars) (nonempty : chars ≠ []) {rest : List Char} (ends : Ends rest) :
    tokensFrom .between (chars ++ rest) = wordToken chars :: tokensFrom .between rest := by
  cases chars with
  | nil => exact absurd rfl nonempty
  | cons c more =>
      have first : advance .between c = ([], .word [c]) := begin_word (wordy c List.mem_cons_self)
      have inside := tokens_inside_word (fun d member => wordy d (List.mem_cons_of_mem c member)) [c] rest
      rw [List.cons_append, tokensFrom, first]
      refine inside.trans ?_
      have whole : (more.reverse ++ [c]).reverse = c :: more := by simp
      cases rest with
      | nil =>
          rw [tokensFrom, finish, whole]
          rfl
      | cons d others =>
          have next : advance (.word (more.reverse ++ [c])) d =
              (wordToken (c :: more) :: (begin d).1, (begin d).2) := by
            rw [advance, ends d others rfl, if_neg Bool.false_ne_true, whole]
          rw [tokensFrom, next]
          rfl

/-! ### Numbers -/

theorem digit_word {c : Char} (digit : c.isDigit = true) : isWordChar c = true := by
  simp [isWordChar, Char.isAlphanum, digit]

theorem wordy_digits {ds : List Char} (digits : Digits ds) : Wordy ds :=
  fun c member => digit_word (digits c member)

theorem wordy_exponent (x : Int) : Wordy (exponentText x) := by
  obtain ⟨ds, text, digits, _⟩ := exponent_text_parts x
  rw [text]
  refine wordy_cons ?_ (wordy_digits digits)
  split <;> rfl

theorem wordy_placed {ds : List Char} (digits : Digits ds) (point : Int) : Wordy (placed ds point) := by
  have zero (n : Nat) : Wordy (zeros n) := wordy_digits (digits_zeros n)
  unfold placed
  split
  · split
    · exact wordy_cons rfl (wordy_cons rfl (wordy_append (zero _) (wordy_digits digits)))
    · split
      · have front : Digits (ds.take point.toNat) := fun c member => digits c (List.mem_of_mem_take member)
        have back : Digits (ds.drop point.toNat) := fun c member => digits c (List.mem_of_mem_drop member)
        exact wordy_append (wordy_digits front) (wordy_cons rfl (wordy_digits back))
      · exact wordy_append (wordy_append (wordy_digits digits) (zero _)) (wordy_cons rfl (wordy_cons rfl wordy_nil))
  · split
    · exact wordy_nil
    · rename_i c more
      have first := digit_word (digits c List.mem_cons_self)
      have others : Digits more := fun d member => digits d (List.mem_cons_of_mem c member)
      refine wordy_append ?_ (wordy_cons rfl (wordy_exponent _))
      split
      · exact wordy_cons first wordy_nil
      · exact wordy_cons first (wordy_cons rfl (wordy_digits others))

theorem wordy_magnitude (m : Nat) (q : Int) : Wordy (magnitudeText m q) := by
  unfold magnitudeText
  split
  · exact wordy_cons rfl (wordy_cons rfl (wordy_cons rfl wordy_nil))
  · exact wordy_placed (digits_of _) _

-- What is read as a number without its sign starts with a digit.
theorem number_first {negative : Bool} {chars : List Char} {v : Value} (read : numberToken negative chars = .scalar v) :
    ∃ c rest, chars = c :: rest ∧ c.isDigit = true := by
  cases chars with
  | nil => cases read
  | cons c rest =>
      refine ⟨c, rest, rfl, ?_⟩
      by_contra other
      have none := not_ascii_digit (eq_false_of_ne_true other)
      simp only [numberToken, leadingDigits, none] at read
      cases read

-- The words that stand for themselves.
def properWords : List String := ["null", "true", "false", "NaN", "Infinity", "-Infinity"]

theorem digit_no_word {c : Char} (digit : c.isDigit = true) (rest : List Char) :
    String.ofList (c :: rest) ∉ properWords ∧ String.ofList ('-' :: c :: rest) ∉ properWords := by
  have spelled {chars : List Char} {text : String} (same : String.ofList chars = text) : chars = text.toList := by
    rw [← same, String.toList_ofList]
  constructor
  all_goals
    intro member
    simp only [properWords, List.mem_cons, List.not_mem_nil, or_false] at member
    rcases member with same | same | same | same | same | same
    all_goals cases spelled same <;> cases digit

theorem word_token_plain {c : Char} (digit : c.isDigit = true) (rest : List Char) :
    wordToken (c :: rest) = numberToken false (c :: rest) := by
  have other := (digit_no_word digit rest).1
  simp only [properWords, List.mem_cons, List.not_mem_nil, or_false, not_or] at other
  obtain ⟨null, yes, no, nan, positive, negative⟩ := other
  unfold wordToken
  split
  case h_7 =>
    split
    · rename_i same
      cases same
      cases digit
    · rfl
  all_goals contradiction

theorem word_token_minus {c : Char} (digit : c.isDigit = true) (rest : List Char) :
    wordToken ('-' :: c :: rest) = numberToken true (c :: rest) := by
  have other := (digit_no_word digit rest).2
  simp only [properWords, List.mem_cons, List.not_mem_nil, or_false, not_or] at other
  obtain ⟨null, yes, no, nan, positive, negative⟩ := other
  unfold wordToken
  split
  case h_7 => rfl
  all_goals contradiction

theorem word_token_number {negative : Bool} {chars : List Char} {v : Value} (read : numberToken negative chars = .scalar v) :
    wordToken (if negative then '-' :: chars else chars) = .scalar v := by
  obtain ⟨c, rest, rfl, digit⟩ := number_first read
  cases negative with
  | true => exact (word_token_minus digit rest).trans read
  | false => exact (word_token_plain digit rest).trans read

/-! ### Scalars -/

theorem natural_token (negative : Bool) {n : Nat} (short : (digitsOf n).length ≤ digitLimit) :
    numberToken negative (digitsOf n) = .scalar (.int (negateIf negative n)) := by
  rw [number_token_integral negative (digits_of n) (digits_of_started n) short, digits_of_value]

-- Not more digits than are read.
def Short (n : Int) : Prop := (digitsOf n.natAbs).length ≤ digitLimit
deriving Decidable

theorem integer_word {n : Int} (short : Short n) :
    Wordy (Number.text n).toList ∧ wordToken (Number.text n).toList = .scalar (.int n) := by
  cases n with
  | ofNat k =>
      have token := word_token_number (natural_token false short)
      rw [Number.text, String.toList_ofList]
      exact ⟨wordy_digits (digits_of k), token⟩
  | negSucc k =>
      have token := word_token_number (natural_token true short)
      rw [Number.text, String.toList_ofList]
      exact ⟨wordy_cons rfl (wordy_digits (digits_of _)), token⟩

theorem real_word {x : Binary64} (number : x.isNan = false) :
    Wordy (x.text realWords).toList ∧ wordToken (x.text realWords).toList = .scalar (.real x) := by
  unfold Binary64.text
  split
  · rename_i reads
    rw [Binary64.isNan, reads] at number
    cases number
  · rename_i negative reads
    rw [reading_infinite reads]
    cases negative with
    | true => exact ⟨List.all_eq_true.mp rfl, rfl⟩
    | false => exact ⟨List.all_eq_true.mp rfl, rfl⟩
  · rename_i negative m q reads
    obtain ⟨same, canonical⟩ := reading_finite reads
    rw [String.toList_ofList]
    constructor
    · split
      · exact wordy_cons rfl (wordy_magnitude m q)
      · exact wordy_magnitude m q
    · rw [same]
      apply word_token_number
      obtain zero | pos := Nat.eq_zero_or_pos m
      · subst zero
        cases negative <;> rfl
      · exact magnitude_text_token negative (canonical pos)

end EbsiDid.Json
