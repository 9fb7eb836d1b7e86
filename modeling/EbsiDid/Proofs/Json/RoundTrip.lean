import EbsiDid.Proofs.Json.Proper

set_option autoImplicit false

/-!
A JSON value is read as it was written. The writer's parts are cut into the tokens of the value, with whatever
blanks the layout puts between them; the tokens then rebuild the value on the reader's stack.
-/
namespace EbsiDid.Json

open Value

/-! ### Tokens of a value -/

mutual
def tokensOf : Value → List Token
  | .text s => [.text s]
  | .list items => .openList :: ([.comma].intercalate (itemTokens items) ++ [.closeList])
  | .record fields => .openRecord :: ([.comma].intercalate (fieldTokens fields) ++ [.closeRecord])
  | v => [.scalar v]

def itemTokens : List Value → List (List Token)
  | [] => []
  | v :: rest => tokensOf v :: itemTokens rest

def fieldTokens : List (String × Value) → List (List Token)
  | [] => []
  | (k, v) :: rest => (.text k :: .colon :: tokensOf v) :: fieldTokens rest
end

-- The characters are cut into the tokens, whatever follows that does not continue the last of them.
def Yields (chars : List Char) (made : List Token) : Prop :=
  ∀ rest, Ends rest → tokensFrom .between (chars ++ rest) = made ++ tokensFrom .between rest

section Parts

variable {separator blanks : List Char} (comma : separator = ',' :: blanks) (blank : Blank blanks)

include comma blank

theorem yields_later {parts : List (List Char)} {made : List (List Token)} (each : List.Forall₂ Yields parts made)
    {rest : List Char} (ends : Ends rest) : Ends (parts.flatMap (separator ++ ·) ++ rest) ∧
      tokensFrom .between (parts.flatMap (separator ++ ·) ++ rest) =
        made.flatMap ([.comma] ++ ·) ++ tokensFrom .between rest := by
  induction each with
  | nil => exact ⟨ends, rfl⟩
  | @cons part tokens parts made first _ ih =>
      obtain ⟨ends_later, tokens_later⟩ := ih
      have sign : advance .between ',' = ([.comma], .between) := rfl
      simp only [List.flatMap_cons, List.append_assoc]
      rw [comma, List.cons_append, List.cons_append] at *
      refine ⟨ends_cons rfl _, ?_⟩
      rw [tokens_cons sign, tokens_of_blank blank, first _ ends_later, tokens_later]
      rfl

-- Parts that are set apart by a comma and blanks.
theorem yields_intercalate {parts : List (List Char)} {made : List (List Token)} (each : List.Forall₂ Yields parts made) :
    Yields (separator.intercalate parts) ([.comma].intercalate made) := by
  intro rest ends
  cases each with
  | nil => rfl
  | cons first others =>
      obtain ⟨ends_later, tokens_later⟩ := yields_later comma blank others ends
      rw [intercalate_cons, intercalate_cons, List.append_assoc, first _ ends_later, tokens_later, List.append_assoc]

end Parts

theorem ends_blank {blanks : List Char} (blank : Blank blanks) {rest : List Char} (ends : Ends rest) :
    Ends (blanks ++ rest) := by
  cases blanks with
  | nil => exact ends
  | cons c more => exact ends_cons (space_no_word (blank c List.mem_cons_self)) _

theorem yields_enclosed {l : Layout} (readable : l.Readable) (depth : Nat) {opening closing : String} {a b : Char} {s t : Token}
    (opens : opening.toList = [a]) (closes : closing.toList = [b]) (first : advance .between a = ([s], .between))
    (last : advance .between b = ([t], .between)) (apart : isWordChar b = false) {parts : List String}
    {made : List (List Token)} (each : List.Forall₂ Yields (parts.map String.toList) made) :
    Yields (l.enclosed depth opening closing parts).toList (s :: ([.comma].intercalate made ++ [t])) := by
  intro rest ends
  obtain ⟨blanks, blank, items⟩ := readable.items
  unfold Layout.enclosed
  cases parts with
  | nil =>
      cases each
      rw [List.isEmpty_nil, if_pos rfl]
      simp only [String.toList_append, opens, closes, List.cons_append, List.nil_append]
      rw [tokens_cons first, tokens_cons last]
      rfl
  | cons part others =>
      have comma : (l.itemSeparator ++ l.line (depth + 1)).toList = ',' :: (blanks ++ (l.line (depth + 1)).toList) := by
        rw [String.toList_append, items]
        rfl
      have spaces : Blank (blanks ++ (l.line (depth + 1)).toList) := by
        intro c member
        exact (List.mem_append.mp member).elim (blank c) (blank_line l (depth + 1) c)
      have inside := yields_intercalate comma spaces each ((l.line depth).toList ++ b :: rest)
        (ends_blank (blank_line l depth) (ends_cons apart rest))
      rw [List.isEmpty_cons, if_neg Bool.false_ne_true]
      simp only [String.toList_append, Text.joined, String.toList_intercalate, opens, closes, List.append_assoc,
        List.cons_append, List.nil_append] at inside ⊢
      rw [tokens_cons first, tokens_of_blank (blank_line l (depth + 1)), inside, tokens_of_blank (blank_line l depth),
        tokens_cons last]
      rfl

/-! ### What is written yields its tokens -/

theorem yields_word {chars : List Char} {v : Value} (wordy : Wordy chars) (token : wordToken chars = .scalar v) :
    Yields chars [.scalar v] := by
  intro rest ends
  have nonempty : chars ≠ [] := by
    rintro rfl
    cases token
  rw [tokens_of_word wordy nonempty ends, token]
  rfl

theorem yields_text {s : String} (kept : Kept s) (unpaired : Unpaired (Text.points s.toList)) :
    Yields (writtenText true s).toList [.text s] :=
  fun rest _ => tokens_of_any_text kept unpaired rest

mutual
theorem yields_value {l : Layout} (readable : l.Readable) (ascii : l.asciiOnly = true) (depth : Nat) (v : Value)
    (proper : v.Proper) (legible : v.Legible) : Yields (writeAt l depth v).toList (tokensOf v) := by
  cases v with
  | null =>
      rw [writeAt]
      exact yields_word (List.all_eq_true.mp rfl) rfl
  | bool b =>
      rw [writeAt]
      cases b with
      | true => exact yields_word (List.all_eq_true.mp rfl) rfl
      | false => exact yields_word (List.all_eq_true.mp rfl) rfl
  | int n =>
      obtain ⟨wordy, token⟩ := integer_word proper
      rw [writeAt]
      exact yields_word wordy token
  | real x =>
      obtain ⟨wordy, token⟩ := real_word proper
      rw [writeAt]
      exact yields_word wordy token
  | text s =>
      rw [writeAt, ascii]
      exact yields_text proper legible
  | list items =>
      rw [writeAt]
      exact yields_enclosed readable depth rfl rfl rfl rfl rfl (yields_items readable ascii (depth + 1) items proper legible)
  | record fields =>
      rw [writeAt]
      exact yields_enclosed readable depth rfl rfl rfl rfl rfl
        (yields_fields readable ascii (depth + 1) fields proper.2 legible)

theorem yields_items {l : Layout} (readable : l.Readable) (ascii : l.asciiOnly = true) (depth : Nat) (items : List Value)
    (proper : ProperItems items) (legible : LegibleItems items) :
    List.Forall₂ Yields ((writeItems l depth items).map String.toList) (itemTokens items) := by
  cases items with
  | nil =>
      rw [writeItems]
      exact .nil
  | cons v rest =>
      rw [writeItems]
      exact .cons (yields_value readable ascii depth v proper.1 legible.1)
        (yields_items readable ascii depth rest proper.2 legible.2)

theorem yields_fields {l : Layout} (readable : l.Readable) (ascii : l.asciiOnly = true) (depth : Nat)
    (fields : List (String × Value)) (proper : ProperFields fields) (legible : LegibleFields fields) :
    List.Forall₂ Yields ((writeFields l depth fields).map String.toList) (fieldTokens fields) := by
  match fields with
  | [] =>
      rw [writeFields]
      exact .nil
  | (k, v) :: others =>
      rw [writeFields]
      refine .cons ?_ (yields_fields readable ascii depth others proper.2.2 legible.2.2)
      intro rest ends
      obtain ⟨blanks, blank, separator⟩ := readable.keys
      have colon : advance .between ':' = ([.colon], .between) := rfl
      have key := yields_text proper.1 legible.1
      have value := yields_value readable ascii depth v proper.2.1 legible.2.1 rest ends
      simp only [String.toList_append, separator, List.append_assoc, List.cons_append]
      rw [ascii, key _ (ends_cons rfl _), List.singleton_append, tokens_cons colon, tokens_of_blank blank, value]
      rfl
end

/-! ### The tokens rebuild the value -/

theorem run_step {s next : State} {t : Token} (steps : s.step t = .ok next) (rest : List Token) :
    State.run s (t :: rest) = next.run rest := by
  rw [State.run, steps]

-- A first item is no closing bracket.
theorem run_first_item (outer : List Frame) (v : Value) (rest : List Token) :
    State.run ⟨.list [] :: outer, .firstItem⟩ (tokensOf v ++ rest) =
      State.run ⟨.list [] :: outer, .value⟩ (tokensOf v ++ rest) := by
  cases v <;> rfl

-- The members of a record that is read, those before `fields` already there.
theorem put_fresh {read : Record} {key : String} (fresh : key ∉ Record.keys read) (v : Value) :
    Record.put key v read = read ++ [(key, v)] := by
  induction read with
  | nil => rfl
  | cons field rest ih =>
      obtain ⟨k, w⟩ := field
      simp only [Record.keys, List.map_cons, List.mem_cons, not_or] at fresh
      rw [Record.put, if_neg (Ne.symm fresh.1), ih fresh.2]
      rfl

-- The induction follows the value; the frames are the lists and records around it.
mutual
theorem run_value (v : Value) (proper : v.Proper) (frames : List Frame) (rest : List Token) :
    State.run ⟨frames, .value⟩ (tokensOf v ++ rest) = (State.close frames v).run rest := by
  cases v with
  | null | bool | int | real | text => exact run_step rfl rest
  | list items =>
      have opens : State.step ⟨frames, .value⟩ .openList = .ok ⟨.list [] :: frames, .firstItem⟩ := rfl
      rw [tokensOf, List.cons_append, List.append_assoc, run_step opens]
      cases items with
      | nil => exact run_step rfl rest
      | cons v others =>
          rw [itemTokens, intercalate_cons, List.append_assoc, run_first_item, run_value v proper.1]
          exact run_items others proper.2 frames [v] rest
  | record fields =>
      have opens : State.step ⟨frames, .value⟩ .openRecord = .ok ⟨frames, .firstKey⟩ := rfl
      rw [tokensOf, List.cons_append, List.append_assoc, run_step opens]
      match fields with
      | [] => exact run_step rfl rest
      | (k, v) :: others =>
          have key : State.step ⟨frames, .firstKey⟩ (.text k) = .ok ⟨frames, .colon [] k⟩ := rfl
          have colon : State.step ⟨frames, .colon [] k⟩ .colon = .ok ⟨.record [] k :: frames, .value⟩ := rfl
          rw [fieldTokens, intercalate_cons, List.append_assoc, List.cons_append, List.cons_append, run_step key,
            run_step colon, run_value v proper.2.2.1]
          exact run_fields others proper.2.2.2 frames [(k, v)] k proper.1 rest

theorem run_items (items : List Value) (proper : ProperItems items) (outer : List Frame) (read : List Value)
    (rest : List Token) :
    State.run ⟨.list read :: outer, .separator⟩
      ((itemTokens items).flatMap ([.comma] ++ ·) ++ ([.closeList] ++ rest)) =
        (State.close outer (.list (read.reverse ++ items))).run rest := by
  cases items with
  | nil =>
      rw [itemTokens, List.append_nil]
      exact run_step rfl rest
  | cons v others =>
      have comma : State.step ⟨.list read :: outer, .separator⟩ .comma = .ok ⟨.list read :: outer, .value⟩ := rfl
      rw [itemTokens, List.flatMap_cons, List.append_assoc, List.append_assoc, List.singleton_append, run_step comma,
        run_value v proper.1, List.append_cons, ← List.reverse_cons]
      exact run_items others proper.2 outer (v :: read) rest

theorem run_fields (fields : List (String × Value)) (proper : ProperFields fields) (outer : List Frame) (read : Record)
    (key : String) (once : (Record.keys (read ++ fields)).Nodup) (rest : List Token) :
    State.run ⟨.record read key :: outer, .separator⟩
      ((fieldTokens fields).flatMap ([.comma] ++ ·) ++ ([.closeRecord] ++ rest)) =
        (State.close outer (.record (read ++ fields))).run rest := by
  match fields with
  | [] =>
      rw [fieldTokens, List.append_nil]
      exact run_step rfl rest
  | (k, v) :: others =>
      have fresh : k ∉ Record.keys read := by
        intro member
        rw [Record.keys, List.map_append, List.nodup_append] at once
        exact once.2.2 k member k List.mem_cons_self rfl
      have comma : State.step ⟨.record read key :: outer, .separator⟩ .comma = .ok ⟨outer, .key read⟩ := rfl
      have text : State.step ⟨outer, .key read⟩ (.text k) = .ok ⟨outer, .colon read k⟩ := rfl
      have colon : State.step ⟨outer, .colon read k⟩ .colon = .ok ⟨.record read k :: outer, .value⟩ := rfl
      rw [fieldTokens, List.flatMap_cons, List.append_assoc, List.append_assoc, List.singleton_append, run_step comma,
        List.cons_append, List.cons_append, run_step text, run_step colon, run_value v proper.2.1, State.close,
        put_fresh fresh]
      rw [List.append_cons read (k, v) others] at once ⊢
      exact run_fields others proper.2.2 outer _ k once rest
end

-- What is written reads back.
theorem read_written {l : Layout} (readable : l.Readable) (ascii : l.asciiOnly = true) {v : Value} (proper : v.Proper)
    (legible : v.Legible) : read (write l v) = .ok v := by
  have made := yields_value readable ascii 0 v proper legible [] ends_nil
  rw [List.append_nil] at made
  rw [read, tokens, write, made, run_value v proper []]
  rfl

end EbsiDid.Json
