import EbsiDid.Json.Reader
import EbsiDid.Json.Writer
import EbsiDid.Proofs.Encoding.Ascii

set_option autoImplicit false

/-!
A record of plain texts is read as it was written, in whichever layout. What is written is cut into the tokens of
its members first, whatever blanks the layout puts between them; the tokens then build the record.
-/
namespace EbsiDid.Json

open Encoding

/-! ### Plain texts -/

-- Printable ASCII that is written without an escape.
def plainChar (c : Char) : Bool := decide (0x20 ≤ c.toNat) && decide (c.toNat < 0x7f) && c != '"' && c != '\\'

def Plain (s : String) : Prop := ∀ c ∈ s.toList, plainChar c = true

instance (s : String) : Decidable (Plain s) := decidable_of_iff (s.toList.all plainChar = true) List.all_eq_true

theorem plain_char_bounds {c : Char} (plain : plainChar c = true) :
    0x20 ≤ c.toNat ∧ c.toNat < 0x7f ∧ c ≠ '"' ∧ c ≠ '\\' := by
  simp only [plainChar, Bool.and_eq_true, decide_eq_true_eq, bne_iff_ne] at plain
  obtain ⟨⟨⟨low, high⟩, quote⟩, slash⟩ := plain
  exact ⟨low, high, quote, slash⟩

theorem plain_ascii {s : String} (plain : Plain s) : Ascii s.toList := by
  intro c member
  obtain ⟨_, high, _⟩ := plain_char_bounds (plain c member)
  omega

theorem written_plain_char (asciiOnly : Bool) {c : Char} (plain : plainChar c = true) :
    writtenPoint asciiOnly c.toNat = [c] := by
  have each : ∀ k : Fin 128, plainChar (Char.ofNat k.val) = true →
      ∀ asciiOnly, writtenPoint asciiOnly (Char.ofNat k.val).toNat = [Char.ofNat k.val] := by decide
  obtain ⟨_, high, _⟩ := plain_char_bounds plain
  exact of_each_ascii (P := fun c => plainChar c = true → ∀ asciiOnly, writtenPoint asciiOnly c.toNat = [c]) each
    (by omega) plain asciiOnly

theorem written_plain_text (asciiOnly : Bool) {s : String} (plain : Plain s) :
    (writtenText asciiOnly s).toList = '"' :: (s.toList ++ ['"']) := by
  have inside : (s.toList.map Char.toNat).flatMap (writtenPoint asciiOnly) = s.toList := by
    unfold Plain at plain
    generalize s.toList = chars at plain
    induction chars with
    | nil => rfl
    | cons c rest ih =>
        rw [List.map_cons, List.flatMap_cons, written_plain_char asciiOnly (plain c List.mem_cons_self),
          ih fun d member => plain d (List.mem_cons_of_mem c member)]
        rfl
  rw [writtenText, String.toList_ofList, points_of_ascii (plain_ascii plain), inside]

theorem pieces_cons {c : Char} (low : 0x20 ≤ c.toNat) (slash : c ≠ '\\') (rest : List Char) :
    pieces? (c :: rest) = (pieces? rest).map (.plain c :: ·) := by
  have kept : ¬ (c = '\\' ∨ c.toNat < 0x20) := by
    rintro (same | small)
    · exact slash same
    · omega
  rw [pieces?.eq_def]
  split
  · rename_i same
    cases same
  · rename_i same
    cases same
    exact absurd rfl slash
  · rename_i same
    cases same
    exact absurd rfl slash
  · rename_i same
    cases same
    rw [if_neg kept]

theorem pieces_plain_cons {c : Char} (plain : plainChar c = true) (rest : List Char) :
    pieces? (c :: rest) = (pieces? rest).map (.plain c :: ·) := by
  obtain ⟨low, _, _, slash⟩ := plain_char_bounds plain
  exact pieces_cons low slash rest

theorem pieces_plain {chars : List Char} (plain : ∀ c ∈ chars, plainChar c = true) :
    pieces? chars = some (chars.map Piece.plain) := by
  induction chars with
  | nil => rfl
  | cons c rest ih =>
      rw [pieces_plain_cons (plain c List.mem_cons_self), ih fun d member => plain d (List.mem_cons_of_mem c member)]
      rfl

theorem joined_plain (chars : List Char) : joined (chars.map Piece.plain) = chars := by
  induction chars with
  | nil => rfl
  | cons c rest ih => rw [List.map_cons, joined, ih]

theorem text_token_plain {s : String} (plain : Plain s) : textToken s.toList = .text s := by
  simp only [textToken, pieces_plain plain, joined_plain, String.ofList_toList]

/-! ### Tokens -/

theorem tokens_cons {cut next : Cut} {c : Char} {made : List Token} (here : advance cut c = (made, next)) (rest : List Char) :
    tokensFrom cut (c :: rest) = made ++ tokensFrom next rest := by
  rw [tokensFrom, here]

def Blank (chars : List Char) : Prop := ∀ c ∈ chars, isSpace c = true

theorem tokens_of_blank {blanks : List Char} (blank : Blank blanks) (rest : List Char) :
    tokensFrom .between (blanks ++ rest) = tokensFrom .between rest := by
  induction blanks with
  | nil => rfl
  | cons c more ih =>
      have space := blank c List.mem_cons_self
      have here : advance .between c = ([], .between) := if_pos space
      rw [List.cons_append, tokens_cons here]
      exact ih fun d member => blank d (List.mem_cons_of_mem c member)

theorem tokens_inside {chars : List Char} (unmarked : ∀ c ∈ chars, c ≠ '"' ∧ c ≠ '\\') (read rest : List Char) :
    tokensFrom (.text read) (chars ++ rest) = tokensFrom (.text (chars.reverse ++ read)) rest := by
  induction chars generalizing read with
  | nil => rfl
  | cons c more ih =>
      obtain ⟨quote, slash⟩ := unmarked c List.mem_cons_self
      have here : advance (.text read) c = ([], .text (c :: read)) := by rw [advance, if_neg quote, if_neg slash]
      rw [List.cons_append, tokens_cons here, List.reverse_cons, List.append_assoc]
      exact ih (fun d member => unmarked d (List.mem_cons_of_mem c member)) (c :: read)

theorem tokens_inside_text {chars : List Char} (plain : ∀ c ∈ chars, plainChar c = true) (read rest : List Char) :
    tokensFrom (.text read) (chars ++ rest) = tokensFrom (.text (chars.reverse ++ read)) rest := by
  refine tokens_inside ?_ read rest
  intro c member
  exact (plain_char_bounds (plain c member)).2.2

theorem tokens_of_text (asciiOnly : Bool) {s : String} (plain : Plain s) (rest : List Char) :
    tokensFrom .between ((writtenText asciiOnly s).toList ++ rest) = .text s :: tokensFrom .between rest := by
  have opening : advance .between '"' = ([], .text []) := rfl
  have closing : advance (.text s.toList.reverse) '"' = ([.text s], .between) := by
    rw [advance, if_pos rfl, List.reverse_reverse, text_token_plain plain]
  rw [written_plain_text asciiOnly plain, List.cons_append, tokens_cons opening, List.append_assoc, List.nil_append,
    tokens_inside_text plain, List.append_nil, List.singleton_append, tokens_cons closing]
  rfl

/-! ### Layouts -/

-- A layout that sets items apart by commas and keys by colons, and has only blanks beside them.
structure Layout.Readable (l : Layout) : Prop where
  items : ∃ blanks, Blank blanks ∧ l.itemSeparator.toList = ',' :: blanks
  keys : ∃ blanks, Blank blanks ∧ l.keySeparator.toList = ':' :: blanks

theorem blank_space : Blank [' '] := by
  intro c member
  cases List.mem_singleton.mp member
  rfl

theorem readable_indented : indented.Readable := ⟨⟨[], nofun, rfl⟩, [' '], blank_space, rfl⟩

theorem readable_spaced : spaced.Readable := ⟨⟨[' '], blank_space, rfl⟩, [' '], blank_space, rfl⟩

theorem blank_line (l : Layout) (depth : Nat) : Blank (l.line depth).toList := by
  unfold Layout.line
  split
  · exact nofun
  · intro c member
    simp only [String.toList_append, String.toList_ofList, List.mem_append] at member
    rcases member with first | more
    · cases List.mem_singleton.mp first
      rfl
    · cases List.eq_of_mem_replicate more
      rfl

theorem ascii_blank {blanks : List Char} (blank : Blank blanks) : Ascii blanks := by
  intro c member
  have space := blank c member
  simp only [isSpace, Bool.or_eq_true, decide_eq_true_eq] at space
  rcases space with ((rfl | rfl) | rfl) | rfl <;> decide

/-! ### Records of texts -/

def texts (fields : List (String × String)) : Record := fields.map fun field => (field.1, .text field.2)

def PlainFields (fields : List (String × String)) : Prop := ∀ field ∈ fields, Plain field.1 ∧ Plain field.2

def memberText (l : Layout) (field : String × String) : String :=
  writtenText l.asciiOnly field.1 ++ l.keySeparator ++ writtenText l.asciiOnly field.2

def memberTokens (field : String × String) : List Token := [.text field.1, .colon, .text field.2]

theorem write_fields_texts (l : Layout) (depth : Nat) (fields : List (String × String)) :
    writeFields l depth (texts fields) = fields.map (memberText l) := by
  induction fields with
  | nil => rfl
  | cons field rest ih =>
      rw [List.map_cons, ← ih]
      rfl

theorem intercalate_cons {α : Type} (separator first : List α) (rest : List (List α)) :
    separator.intercalate (first :: rest) = first ++ rest.flatMap fun part => separator ++ part := by
  induction rest generalizing first with
  | nil => rw [List.intercalate_singleton, List.flatMap_nil, List.append_nil]
  | cons next others ih => rw [List.intercalate_cons_cons, ih next, List.flatMap_cons, List.append_assoc, List.append_assoc]

-- The separator of a layout with the line that follows it.
def betweenMembers (l : Layout) : List Char := l.itemSeparator.toList ++ (l.line 1).toList

-- What stands after the first member.
def laterChars (l : Layout) (more : List (String × String)) : List Char :=
  more.flatMap fun field => betweenMembers l ++ (memberText l field).toList

def laterTokens (more : List (String × String)) : List Token := more.flatMap fun field => .comma :: memberTokens field

theorem later_chars_cons (l : Layout) (field : String × String) (more : List (String × String)) :
    laterChars l (field :: more) = betweenMembers l ++ ((memberText l field).toList ++ laterChars l more) := by
  rw [laterChars, List.flatMap_cons, ← laterChars, List.append_assoc]

theorem later_tokens_cons (field : String × String) (more : List (String × String)) :
    laterTokens (field :: more) = .comma :: (memberTokens field ++ laterTokens more) := by
  rw [laterTokens, List.flatMap_cons, ← laterTokens, List.cons_append]

theorem write_record_chars (l : Layout) (first : String × String) (more : List (String × String)) :
    (write l (.record (texts (first :: more)))).toList =
      '\x7b' :: ((l.line 1).toList ++ ((memberText l first).toList ++
        (laterChars l more ++ ((l.line 0).toList ++ ['\x7d'])))) := by
  rw [write, writeAt, write_fields_texts, Layout.enclosed, List.map_cons, if_neg (by simp)]
  simp only [String.toList_append, Text.joined, String.toList_intercalate, List.map_cons, List.map_map, intercalate_cons,
    List.flatMap_map, List.append_assoc, laterChars, betweenMembers, Nat.zero_add]
  rfl

theorem member_chars (l : Layout) {field : String × String} (plain : Plain field.1 ∧ Plain field.2) :
    (memberText l field).toList =
      '"' :: (field.1.toList ++ '"' :: (l.keySeparator.toList ++ '"' :: (field.2.toList ++ ['"']))) := by
  rw [memberText, String.toList_append, String.toList_append, written_plain_text _ plain.1, written_plain_text _ plain.2]
  simp only [List.cons_append, List.append_assoc, List.nil_append]

theorem later_member_chars {l : Layout} {more : List (String × String)} (plain : PlainFields more) :
    laterChars l more = more.flatMap fun field => betweenMembers l ++
      '"' :: (field.1.toList ++ '"' :: (l.keySeparator.toList ++ '"' :: (field.2.toList ++ ['"']))) := by
  have each : more.map (fun field => (memberText l field).toList) = more.map fun field =>
      '"' :: (field.1.toList ++ '"' :: (l.keySeparator.toList ++ '"' :: (field.2.toList ++ ['"']))) :=
    List.map_congr_left fun field member => member_chars l (plain field member)
  have flat := congrArg (List.flatMap (betweenMembers l ++ ·)) each
  rw [List.flatMap_map, List.flatMap_map] at flat
  exact flat

section Readable

variable {l : Layout}

theorem tokens_of_member (readable : l.Readable) {field : String × String} (plain : Plain field.1 ∧ Plain field.2)
    (rest : List Char) :
    tokensFrom .between ((memberText l field).toList ++ rest) = memberTokens field ++ tokensFrom .between rest := by
  obtain ⟨blanks, blank, separator⟩ := readable.keys
  have colon : advance .between ':' = ([.colon], .between) := rfl
  rw [memberText, String.toList_append, String.toList_append, List.append_assoc, List.append_assoc,
    tokens_of_text _ plain.1, separator, List.cons_append, tokens_cons colon, tokens_of_blank blank,
    tokens_of_text _ plain.2]
  rfl

theorem tokens_of_separator (readable : l.Readable) (rest : List Char) :
    tokensFrom .between (betweenMembers l ++ rest) = .comma :: tokensFrom .between rest := by
  obtain ⟨blanks, blank, separator⟩ := readable.items
  have comma : advance .between ',' = ([.comma], .between) := rfl
  rw [betweenMembers, separator, List.append_assoc, List.cons_append, tokens_cons comma, tokens_of_blank blank,
    tokens_of_blank (blank_line l 1)]
  rfl

theorem tokens_of_members (readable : l.Readable) {fields : List (String × String)} (plain : PlainFields fields)
    (rest : List Char) :
    tokensFrom .between (laterChars l fields ++ rest) = laterTokens fields ++ tokensFrom .between rest := by
  induction fields with
  | nil => rfl
  | cons field more ih =>
      have later := ih fun other member => plain other (List.mem_cons_of_mem field member)
      rw [later_chars_cons, List.append_assoc, List.append_assoc, tokens_of_separator readable,
        tokens_of_member readable (plain field List.mem_cons_self), later, later_tokens_cons, List.cons_append,
        List.append_assoc]

theorem tokens_of_record (readable : l.Readable) {first : String × String} {more : List (String × String)}
    (plain : PlainFields (first :: more)) :
    tokens (write l (.record (texts (first :: more)))).toList =
      .openRecord :: (memberTokens first ++ (laterTokens more ++ [.closeRecord])) := by
  have opening : advance .between '\x7b' = ([.openRecord], .between) := rfl
  have closing : advance .between '\x7d' = ([.closeRecord], .between) := rfl
  have later : PlainFields more := fun field member => plain field (List.mem_cons_of_mem first member)
  rw [tokens, write_record_chars, tokens_cons opening, tokens_of_blank (blank_line l 1),
    tokens_of_member readable (plain first List.mem_cons_self), tokens_of_members readable later,
    tokens_of_blank (blank_line l 0), tokens_cons closing]
  rfl

end Readable

/-! ### The value of the tokens -/

-- Each further member goes into the one record that is open.
theorem run_members (more : List (String × String)) (read : Record) (key : String) :
    State.run ⟨[.record read key], .separator⟩ (laterTokens more ++ [.closeRecord]) =
      .ok (.record (Record.update read (texts more))) := by
  induction more generalizing read key with
  | nil => rfl
  | cons field rest ih =>
      rw [later_tokens_cons]
      exact ih (Record.put field.1 (.text field.2) read) field.1

theorem run_record (first : String × String) (more : List (String × String)) :
    State.run ⟨[], .value⟩ (.openRecord :: (memberTokens first ++ (laterTokens more ++ [.closeRecord]))) =
      .ok (.record (Record.ofList (texts (first :: more)))) :=
  run_members more (Record.put first.1 (.text first.2) []) first.1

theorem read_written_record {l : Layout} (readable : l.Readable) {fields : List (String × String)}
    (plain : PlainFields fields) :
    read (write l (.record (texts fields))) = .ok (.record (Record.ofList (texts fields))) := by
  cases fields with
  | nil =>
      have empty : write l (.record []) = "\x7b" ++ "\x7d" := rfl
      rw [texts, List.map_nil, empty, read, String.toList_append]
      rfl
  | cons first more => rw [read, tokens_of_record readable plain, run_record]

/-! ### What is written is ASCII -/

theorem ascii_member {l : Layout} (readable : l.Readable) {field : String × String} (plain : Plain field.1 ∧ Plain field.2) :
    Ascii (memberText l field).toList := by
  obtain ⟨blanks, blank, separator⟩ := readable.keys
  have quoted {s : String} (plain : Plain s) : Ascii (writtenText l.asciiOnly s).toList := by
    rw [written_plain_text l.asciiOnly plain]
    exact ascii_cons (by decide) (ascii_append (plain_ascii plain) (ascii_cons (by decide) nofun))
  rw [memberText, String.toList_append, String.toList_append, separator]
  exact ascii_append (ascii_append (quoted plain.1) (ascii_cons (by decide) (ascii_blank blank))) (quoted plain.2)

theorem ascii_record {l : Layout} (readable : l.Readable) {first : String × String} {more : List (String × String)}
    (plain : PlainFields (first :: more)) : Ascii (write l (.record (texts (first :: more)))).toList := by
  obtain ⟨blanks, blank, separator⟩ := readable.items
  have between : Ascii (betweenMembers l) := by
    rw [betweenMembers, separator]
    exact ascii_append (ascii_cons (by decide) (ascii_blank blank)) (ascii_blank (blank_line l 1))
  have later : Ascii (laterChars l more) := by
    apply ascii_flatMap
    intro field member
    exact ascii_append between (ascii_member readable (plain field (List.mem_cons_of_mem first member)))
  have head := ascii_member readable (plain first List.mem_cons_self)
  have closing : Ascii ((l.line 0).toList ++ ['\x7d']) :=
    ascii_append (ascii_blank (blank_line l 0)) (ascii_cons (by decide) nofun)
  rw [write_record_chars]
  exact ascii_cons (by decide) (ascii_append (ascii_blank (blank_line l 1)) (ascii_append head (ascii_append later closing)))

end EbsiDid.Json
