import EbsiDid.Error.Chain
import Mathlib.Data.List.Forall2

set_option autoImplicit false

/-!
The messages of a chain of errors on one line: what is blank at the ends of each goes, every line break
in it becomes a full stop, and they stand one after another from the outermost error to the innermost.
-/
namespace EbsiDid

namespace Text

/-! ### Trimming -/

def Blanks (chars : List Char) : Prop := ∀ c ∈ chars, isBlank c = true

def Begun (chars : List Char) : Prop := ∀ c ∈ chars.head?, isBlank c = false

-- What is left of a text without the blanks around it. It begins and ends with a character that is no blank.
structure Strips (chars core : List Char) : Prop where
  around : ∃ before after, Blanks before ∧ Blanks after ∧ chars = before ++ core ++ after
  begun : Begun core
  ended : Begun core.reverse

theorem newline_blank : isBlank '\n' = true := by decide

theorem solid_no_newline {c : Char} (solid : isBlank c = false) : c ≠ '\n' := by
  rintro rfl
  exact absurd newline_blank (by simp [solid])

theorem blank_reverse {chars : List Char} (blank : Blanks chars) : Blanks chars.reverse := by
  intro c member
  exact blank c (List.mem_reverse.mp member)

theorem trim_left_begun {chars : List Char} (begun : Begun chars) : trimLeft chars = chars := by
  cases chars with
  | nil => rfl
  | cons c rest =>
      have solid := begun c rfl
      simp [trimLeft, solid]

theorem trim_left_blank {before : List Char} (blank : Blanks before) (rest : List Char) :
    trimLeft (before ++ rest) = trimLeft rest := by
  induction before with
  | nil => rfl
  | cons c more ih =>
      have first := blank c List.mem_cons_self
      have later := ih fun d member => blank d (List.mem_cons_of_mem c member)
      simpa [trimLeft, first] using later

theorem trim_left_split (chars : List Char) :
    ∃ before, Blanks before ∧ chars = before ++ trimLeft chars ∧ Begun (trimLeft chars) := by
  induction chars with
  | nil => exact ⟨[], nofun, rfl, nofun⟩
  | cons c rest ih =>
      by_cases blank : isBlank c = true
      · obtain ⟨before, blanks, parts, begun⟩ := ih
        have dropped : trimLeft (c :: rest) = trimLeft rest := by simp [trimLeft, blank]
        rw [dropped]
        refine ⟨c :: before, ?_, congrArg (c :: ·) parts, begun⟩
        exact List.forall_mem_cons.mpr ⟨blank, blanks⟩
      · have solid : isBlank c = false := by simpa using blank
        have begun : Begun (c :: rest) := by simpa [Begun] using solid
        rw [trim_left_begun begun]
        exact ⟨[], nofun, rfl, begun⟩

theorem strips_trim (chars : List Char) : Strips chars (trimChars chars) := by
  obtain ⟨before, blank, front, begun⟩ := trim_left_split chars
  obtain ⟨behind, blank_behind, back, ended⟩ := trim_left_split (trimLeft chars).reverse
  have whole : trimLeft chars = trimChars chars ++ behind.reverse := by
    have reversed := congrArg List.reverse back
    simpa [trimChars, trimRight] using reversed
  refine ⟨⟨before, behind.reverse, blank, blank_reverse blank_behind, ?_⟩, ?_, ?_⟩
  · rw [List.append_assoc, ← whole]
    exact front
  · intro c first
    apply begun c
    rw [whole]
    simp [Option.mem_def.mp first]
  · simpa [trimChars, trimRight] using ended

theorem strips_iff {chars core : List Char} : Strips chars core ↔ trimChars chars = core := by
  constructor
  · rintro ⟨⟨before, after, blank, blank_after, rfl⟩, begun, ended⟩
    have right : trimRight (core ++ after) = core := by
      rw [trimRight, List.reverse_append, trim_left_blank (blank_reverse blank_after), trim_left_begun ended,
        List.reverse_reverse]
    by_cases empty : core = []
    · subst empty
      have gone : trimLeft (before ++ [] ++ after) = [] := by
        have nothing := trim_left_blank (List.forall_mem_append.mpr ⟨blank, blank_after⟩) []
        simpa [trimLeft] using nothing
      rw [trimChars, gone]
      rfl
    · have front : Begun (core ++ after) := by
        cases core with
        | nil => exact absurd rfl empty
        | cons c rest => exact begun
      rw [trimChars, List.append_assoc, trim_left_blank blank, trim_left_begun front, right]
  · rintro rfl
    exact strips_trim chars

theorem trim_kept {chars : List Char} (begun : Begun chars) (ended : Begun chars.reverse) : trimChars chars = chars :=
  strips_iff.mp ⟨⟨[], [], nofun, nofun, by simp⟩, begun, ended⟩

theorem mem_of_mem_trim {chars : List Char} {c : Char} (member : c ∈ trimChars chars) : c ∈ chars := by
  obtain ⟨before, after, _, _, parts⟩ := (strips_trim chars).around
  rw [parts]
  simp [member]

theorem mem_intercalate {separator : List Char} {parts : List (List Char)} {c : Char}
    (member : c ∈ separator.intercalate parts) : c ∈ separator ∨ ∃ part ∈ parts, c ∈ part := by
  induction parts with
  | nil => exact absurd member List.not_mem_nil
  | cons first rest ih =>
      cases rest with
      | nil => exact .inr ⟨first, List.mem_cons_self, by simpa using member⟩
      | cons next others =>
          rw [List.intercalate_cons_cons, List.append_assoc, List.mem_append, List.mem_append] at member
          rcases member with here | between | later
          · exact .inr ⟨first, List.mem_cons_self, here⟩
          · exact .inl between
          · rcases ih later with between | ⟨part, among, inside⟩
            · exact .inl between
            · exact .inr ⟨part, List.mem_cons_of_mem first among, inside⟩

/-! ### Line breaks -/

-- A line break goes with all the blanks that follow it, and a full stop with a space comes in their place.
inductive Folds : List Char → List Char → Prop
  | done : Folds [] []
  | kept {c : Char} {rest line : List Char} (inside : c ≠ '\n') (later : Folds rest line) :
      Folds (c :: rest) (c :: line)
  | folded {blanks rest line : List Char} (blank : Blanks blanks) (stops : Begun rest) (later : Folds rest line) :
      Folds ('\n' :: (blanks ++ rest)) ('.' :: ' ' :: line)

theorem folds_no_newline {chars line : List Char} (folds : Folds chars line) : '\n' ∉ line := by
  induction folds with
  | done => exact List.not_mem_nil
  | kept inside _ ih => simp [inside.symm, ih]
  | folded _ _ _ ih => simp [ih]

end Text

namespace Notice

open Text

theorem fold_lines_blank (skipping : Bool) {c : Char} (other : c ≠ '\n') (rest : List Char) :
    foldLines skipping (c :: rest) =
      if skipping && isBlank c then foldLines true rest else c :: foldLines false rest := by
  simp [foldLines, other]

theorem fold_lines_skipping (chars : List Char) : foldLines true chars = foldLines false (trimLeft chars) := by
  induction chars with
  | nil => rfl
  | cons c rest ih =>
      by_cases newline : c = '\n'
      · subst newline
        simpa [foldLines, trimLeft, newline_blank] using ih
      · by_cases blank : isBlank c = true
        · simpa [fold_lines_blank true newline, trimLeft, blank] using ih
        · simp [fold_lines_blank _ newline, trimLeft, blank]

theorem fold_lines_newline (rest : List Char) :
    foldLines false ('\n' :: rest) = '.' :: ' ' :: foldLines false (trimLeft rest) := by
  simp [foldLines, fold_lines_skipping]

theorem folds_fold_lines (chars : List Char) : Folds chars (foldLines false chars) := by
  cases chars with
  | nil => exact .done
  | cons c rest =>
      by_cases newline : c = '\n'
      · subst newline
        obtain ⟨blanks, blank, parts, begun⟩ := trim_left_split rest
        have shorter : (trimLeft rest).length ≤ rest.length := (List.dropWhile_suffix _).length_le
        have later := Folds.folded blank begun (folds_fold_lines (trimLeft rest))
        rw [fold_lines_newline]
        rwa [← parts] at later
      · simpa [fold_lines_blank false newline] using Folds.kept newline (folds_fold_lines rest)
termination_by chars.length

theorem folds_iff {chars line : List Char} : Folds chars line ↔ foldLines false chars = line := by
  constructor
  · intro folds
    induction folds with
    | done => rfl
    | kept inside _ ih => simp [fold_lines_blank false inside, ih]
    | folded blank stops _ ih => rw [fold_lines_newline, trim_left_blank blank, trim_left_begun stops, ih]
  · rintro rfl
    exact folds_fold_lines chars

-- A character that is no blank is the last of the line, too.
theorem fold_lines_last (skipping : Bool) (front : List Char) {c : Char} (solid : isBlank c = false) :
    foldLines skipping (front ++ [c]) = foldLines skipping front ++ [c] := by
  have inside := solid_no_newline solid
  induction front generalizing skipping with
  | nil => simp [foldLines, inside, solid]
  | cons d rest ih =>
      by_cases newline : d = '\n'
      · cases skipping <;> simp [foldLines, newline, ih]
      · simp only [List.cons_append, fold_lines_blank _ newline, ih]
        split <;> rfl

theorem fold_lines_kept {chars : List Char} (unbroken : '\n' ∉ chars) : foldLines false chars = chars := by
  induction chars with
  | nil => rfl
  | cons c rest ih =>
      rw [List.mem_cons, not_or] at unbroken
      simp [fold_lines_blank false (Ne.symm unbroken.1), ih unbroken.2]

/-! ### One error -/

-- The first argument as a text, as it is.
def words (n : Notice) : List Char :=
  match n.args with
  | [] => []
  | first :: _ => first.display.toList

theorem message_chars (n : Notice) : n.message.toList = trimChars n.words := by
  obtain ⟨kind, args, code, claim, fault⟩ := n
  cases args with
  | nil => rfl
  | cons first others => simp [message, words, trim]

-- What an error adds to the line.
def Tells (n : Notice) (part : List Char) : Prop := ∃ core, Strips n.words core ∧ Folds core part

-- The ends of a trimmed text stay as they are, so that there is nothing to trim any more.
theorem line_chars (n : Notice) : n.line.toList = foldLines false (trimChars n.words) := by
  have twice : trimChars (foldLines false (trimChars n.words)) = foldLines false (trimChars n.words) := by
    obtain ⟨_, begun, ended⟩ := strips_trim n.words
    generalize trimChars n.words = chars at begun ended ⊢
    apply trim_kept
    · cases chars with
      | nil => exact nofun
      | cons c rest =>
          have solid := begun c rfl
          simpa [fold_lines_blank false (solid_no_newline solid), Begun] using solid
    · obtain rfl | ⟨front, c, rfl⟩ := List.eq_nil_or_concat' chars
      · exact nofun
      · have solid : isBlank c = false := ended c (by simp)
        simpa [fold_lines_last false front solid, Begun] using solid
  obtain ⟨kind, args, code, claim, fault⟩ := n
  cases args with
  | nil => rfl
  | cons first others => simpa [line, words] using twice

theorem tells_iff {n : Notice} {part : List Char} : n.Tells part ↔ n.line.toList = part := by
  simp [Tells, strips_iff, folds_iff, line_chars]

theorem line_unbroken (n : Notice) : '\n' ∉ n.line.toList := by
  rw [line_chars]
  exact folds_no_newline (folds_fold_lines _)

theorem line_of_unbroken {n : Notice} (unbroken : '\n' ∉ n.message.toList) : n.line = n.message := by
  rw [message_chars] at unbroken
  rw [← String.toList_inj, line_chars, message_chars, fold_lines_kept unbroken]

end Notice

/-! ### The chain -/

namespace Chain

open Text

-- Errors of which each was caused by the next, with what else was at hand when it arose.
def caused : List (Notice × Chain) → Chain
  | [] => .nothing
  | (n, aside) :: rest => .raised n (caused rest) aside

-- What all of them tell, from the first on.
def RollsUp (errors : List Notice) (line : List Char) : Prop :=
  ∃ parts, List.Forall₂ Notice.Tells errors parts ∧ Strips (['.', ' '].intercalate parts) line

theorem caused_all (chain : Chain) : ∃ errors, chain = caused errors := by
  induction chain with
  | nothing => exact ⟨[], rfl⟩
  | raised n cause aside ih _ =>
      obtain ⟨rest, rfl⟩ := ih
      exact ⟨(n, aside) :: rest, rfl⟩

theorem causes_caused (errors : List (Notice × Chain)) : causes (caused errors) = errors.map Prod.fst := by
  induction errors with
  | nil => rfl
  | cons e rest ih => exact congrArg (e.1 :: ·) ih

theorem rolls_up_iff {errors : List Notice} {line : String} :
    RollsUp errors line.toList ↔ trim (joined ". " (errors.map Notice.line)) = line := by
  have lines : Notice.Tells = fun n part => n.line.toList = part := by
    funext n part
    exact propext Notice.tells_iff
  have told (parts : List (List Char)) :
      List.Forall₂ Notice.Tells errors parts ↔ errors.map (fun n => n.line.toList) = parts := by
    conv_rhs => rw [← List.forall₂_eq_eq_eq]
    rw [lines, List.forall₂_map_left_iff]
  simp only [RollsUp, told, exists_eq_left', strips_iff]
  rw [← String.toList_inj, trim, String.toList_ofList, joined, String.toList_intercalate, List.map_map]
  rfl

theorem roll_up_unbroken (chain : Chain) : '\n' ∉ chain.rollUp.toList := by
  intro broken
  rw [rollUp, trim, String.toList_ofList] at broken
  have whole := mem_of_mem_trim broken
  rw [joined, String.toList_intercalate] at whole
  rcases mem_intercalate whole with between | ⟨part, among, inside⟩
  · exact absurd between (by decide)
  · simp only [List.map_map, List.mem_map] at among
    obtain ⟨n, _, rfl⟩ := among
    exact n.line_unbroken inside

-- The line is that of the errors which caused one another, and whatever else was at hand adds nothing to it.
theorem roll_up_one_line (chain : Chain) : ∃ errors, chain = caused errors ∧
    '\n' ∉ chain.rollUp.toList ∧
    (∀ line : String, chain.rollUp = line ↔ RollsUp (errors.map Prod.fst) line.toList) ∧
    (∀ others, others.map Prod.fst = errors.map Prod.fst → (caused others).rollUp = chain.rollUp) ∧
    (∀ n aside, errors = [(n, aside)] → '\n' ∉ n.message.toList → chain.rollUp = n.message) := by
  obtain ⟨errors, rfl⟩ := caused_all chain
  refine ⟨errors, rfl, roll_up_unbroken _, ?_, ?_, ?_⟩
  · intro line
    rw [rolls_up_iff, rollUp, causes_caused]
  · intro others same
    rw [rollUp, rollUp, causes_caused, causes_caused, same]
  · rintro n aside rfl unbroken
    have trimmed : trimChars n.message.toList = n.message.toList := by
      obtain ⟨_, begun, ended⟩ := strips_trim n.words
      rw [n.message_chars]
      exact trim_kept begun ended
    rw [rollUp, causes_caused]
    simp [joined, Notice.line_of_unbroken unbroken, trim, trimmed]

example :
    let told : Chain := .raised (.plain .badValue [.text "inner\n  detail"] .null) .nothing
      (.raised (.plain .wrongType [.text "aside"] .null) .nothing .nothing)
    rollUp (.raised (.plain .base [.text " outer "] .null) told .nothing) = "outer. inner. detail" := by
  decide +kernel

end Chain
end EbsiDid
