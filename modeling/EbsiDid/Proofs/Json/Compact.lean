import EbsiDid.Proofs.Json.RoundTrip

set_option autoImplicit false

/-!
Compact JSON of texts is uniquely readable. Beyond ASCII a code point stands as it is between the quotes, a surrogate
by the characters that keep it; only quotes, backslashes and control characters are escaped. So no unit meets
another one, and any texts are read as they were written.
-/
namespace EbsiDid.Json

open Text

/-! ### Between quotes -/

-- Characters between quotes that are read as others, whatever stands before and after them.
structure Reads (chars kept : List Char) : Prop where
  inside : ∀ read rest, tokensFrom (.text read) (chars ++ rest) = tokensFrom (.text (chars.reverse ++ read)) rest
  pieces : ∃ made, (∀ rest, pieces? (chars ++ rest) = (pieces? rest).map (made ++ ·)) ∧
    ∀ more, joined (made ++ more) = kept ++ joined more

theorem reads_nil : Reads [] [] := by
  refine ⟨fun _ _ => rfl, [], ?_, fun _ => rfl⟩
  intro rest
  simp

theorem reads_append {chars kept more others : List Char} (first : Reads chars kept) (later : Reads more others) :
    Reads (chars ++ more) (kept ++ others) := by
  obtain ⟨made, pieces, joins⟩ := first.pieces
  obtain ⟨next, further, rejoins⟩ := later.pieces
  refine ⟨?_, made ++ next, ?_, ?_⟩
  · intro read rest
    rw [List.append_assoc, first.inside, later.inside, List.reverse_append, List.append_assoc]
  · intro rest
    rw [List.append_assoc, pieces, further, Option.map_map]
    simp only [Function.comp_def, List.append_assoc]
  · intro rest
    rw [List.append_assoc, joins, rejoins, List.append_assoc]

theorem reads_spelling {p : Nat} {chars kept : List Char} {pieces : List Piece} (spelling : Spelling p chars pieces)
    (joins : ∀ more, joined (pieces ++ more) = kept ++ joined more) : Reads chars kept :=
  ⟨tokens_of_spelling spelling, pieces, pieces_of_spelling spelling, joins⟩

theorem reads_short {c x : Char} (ascii : c.toNat < 0x80) (letter : x ≠ 'u') (escape : simpleEscape? x = some c) :
    Reads ['\\', x] (ofPoint c.toNat) := by
  refine reads_spelling (.short c x ascii letter escape) ?_
  intro more
  rw [of_point_ascii ascii]
  rfl

theorem reads_control {p : Nat} (control : p < 0x20) : Reads (escape4 p) (ofPoint p) := by
  refine reads_spelling (.unit p (by omega)) fun more => joined_unit ?_
  rintro v rest _ ⟨high, _⟩
  unfold High at high
  omega

-- A character that stands for itself.
structure Raw (c : Char) : Prop where
  low : 0x20 ≤ c.toNat
  quote : c ≠ '"'
  slash : c ≠ '\\'

theorem reads_char {c : Char} (raw : Raw c) : Reads [c] [c] := by
  refine ⟨tokens_inside ?_, [.plain c], pieces_cons raw.low raw.slash, fun _ => rfl⟩
  simp [raw.quote, raw.slash]

theorem reads_raw {chars : List Char} (raw : ∀ c ∈ chars, Raw c) : Reads chars chars := by
  induction chars with
  | nil => exact reads_nil
  | cons c rest ih =>
      have later := ih fun d member => raw d (List.mem_cons_of_mem c member)
      exact reads_append (reads_char (raw c List.mem_cons_self)) later

/-! ### Code points -/

theorem raw_of_value {c : Char} (low : 0x20 ≤ c.toNat) (quote : c.toNat ≠ 0x22) (slash : c.toNat ≠ 0x5c) : Raw c := by
  refine ⟨low, ?_, ?_⟩
  · rintro rfl
    exact quote rfl
  · rintro rfl
    exact slash rfl

theorem raw_point {p : Nat} (small : p < 0x110000) (low : 0x20 ≤ p) (quote : p ≠ 0x22) (slash : p ≠ 0x5c) :
    ∀ c ∈ ofPoint p, Raw c := by
  have marks : Raw mark := ⟨by decide, by decide, by decide⟩
  unfold ofPoint
  by_cases surrogate : isSurrogate p = true
  · rw [if_pos surrogate]
    simp only [isSurrogate, Bool.and_eq_true, decide_eq_true_eq] at surrogate
    have moved : (Char.ofNat (p + shift)).toNat = p + shift := by
      apply toNat_ofNat
      · have above : ¬(p + shift < 0xe000) := by
          simp only [shift]
          omega
        simp [isSurrogate, above]
      · simp only [shift]
        omega
    have beside : Raw (Char.ofNat (p + shift)) := by
      simp only [shift] at moved ⊢
      apply raw_of_value <;> omega
    simp [marks, beside]
  · rw [if_neg surrogate]
    by_cases marked : p = mark.toNat
    · rw [if_pos marked]
      simp [marks]
    · have value := toNat_ofNat p (eq_false_of_ne_true surrogate) small
      have itself : Raw (Char.ofNat p) := raw_of_value (by omega) (by omega) (by omega)
      rw [if_neg marked]
      simp [itself]

-- A surrogate is kept raw. Of the others, seven have an escape of their own and the control characters are escaped
-- by their unit; what is left stands for itself.
theorem reads_point {p : Nat} (small : p < 0x110000) : Reads (writtenPoint false p) (ofPoint p) := by
  by_cases surrogate : isSurrogate p = true
  · rw [writtenPoint, if_pos surrogate, if_neg Bool.false_ne_true]
    simp only [isSurrogate, Bool.and_eq_true, decide_eq_true_eq] at surrogate
    exact reads_raw (raw_point small (by omega) (by omega) (by omega))
  · have value := toNat_ofNat p (eq_false_of_ne_true surrogate) small
    rw [writtenPoint, if_neg surrogate]
    generalize Char.ofNat p = c at value
    subst value
    by_cases short : c ∈ ['"', '\\', '\n', '\r', '\t', '\x08', '\x0c']
    · simp only [List.mem_cons, List.not_mem_nil, or_false] at short
      rcases short with rfl | rfl | rfl | rfl | rfl | rfl | rfl
      all_goals exact reads_short (by decide) (by decide) rfl
    · simp only [List.mem_cons, List.not_mem_nil, or_false, not_or] at short
      obtain ⟨quote, slash, line, carriage, tab, back, feed⟩ := short
      rw [writtenChar, if_neg quote, if_neg slash, if_neg line, if_neg carriage, if_neg tab, if_neg back, if_neg feed]
      by_cases control : c.toNat < 0x20
      · rw [if_pos control]
        exact reads_control control
      · have apart : c.toNat ≠ 0x22 ∧ c.toNat ≠ 0x5c := ⟨fun same => quote (Char.toNat_inj.mp same),
          fun same => slash (Char.toNat_inj.mp same)⟩
        rw [if_neg control, if_neg (by simp)]
        exact reads_raw (raw_point small (by omega) apart.1 apart.2)

theorem reads_points {ps : List Nat} (small : ∀ p ∈ ps, p < 0x110000) :
    Reads (ps.flatMap (writtenPoint false)) (ofPoints ps) := by
  induction ps with
  | nil => exact reads_nil
  | cons p rest ih =>
      rw [ofPoints, List.flatMap_cons, List.flatMap_cons]
      have later := ih fun q member => small q (List.mem_cons_of_mem p member)
      exact reads_append (reads_point (small p List.mem_cons_self)) later

theorem text_token_of_reads {chars : List Char} {s : String} (reads : Reads chars s.toList) : textToken chars = .text s := by
  obtain ⟨made, pieces, joins⟩ := reads.pieces
  have whole := pieces []
  have text := joins []
  rw [List.append_nil] at whole text
  rw [textToken, whole]
  simp only [pieces?, Option.map_some, List.append_nil, text, joined, String.ofList_toList]

theorem yields_kept {s : String} (kept : Kept s) : Yields (writtenText false s).toList [.text s] := by
  intro rest _
  have reads := reads_points (points_small s.toList)
  rw [kept] at reads
  have opening : advance .between '"' = ([], .text []) := rfl
  rw [writtenText, String.toList_ofList, List.cons_append, tokens_cons opening]
  generalize (points s.toList).flatMap (writtenPoint false) = chars at reads
  have closing : advance (.text chars.reverse) '"' = ([.text s], .between) := by
    rw [advance, if_pos rfl, List.reverse_reverse, text_token_of_reads reads]
  rw [List.append_assoc, reads.inside, List.append_nil, List.singleton_append, tokens_cons closing, List.nil_append]

/-! ### Records of texts -/

def KeptFields (fields : List (String × String)) : Prop := ∀ field ∈ fields, Kept field.1 ∧ Kept field.2

theorem readable_compact : compact.Readable := ⟨⟨[], nofun, rfl⟩, [], nofun, rfl⟩

theorem yields_members {fields : List (String × String)} (kept : KeptFields fields) :
    List.Forall₂ Yields ((fields.map (memberText compact)).map String.toList) (fieldTokens (texts fields)) := by
  induction fields with
  | nil => exact .nil
  | cons field others ih =>
      refine .cons ?_ (ih fun other member => kept other (List.mem_cons_of_mem field member))
      intro rest ends
      have first := kept field List.mem_cons_self
      have asciiOnly : compact.asciiOnly = false := rfl
      have separator : compact.keySeparator.toList = [':'] := rfl
      have colon : advance .between ':' = ([.colon], .between) := rfl
      have key := yields_kept first.1
      have value := yields_kept first.2 rest ends
      simp only [memberText, String.toList_append, separator, asciiOnly, List.append_assoc, List.cons_append,
        List.nil_append]
      rw [key _ (ends_cons rfl _), List.singleton_append, tokens_cons colon, value]
      rfl

theorem proper_texts {fields : List (String × String)} (kept : KeptFields fields) : Value.ProperFields (texts fields) := by
  induction fields with
  | nil => trivial
  | cons field rest ih =>
      obtain ⟨key, value⟩ := kept field List.mem_cons_self
      exact ⟨key, value, ih fun other member => kept other (List.mem_cons_of_mem field member)⟩

theorem texts_keys (fields : List (String × String)) : (texts fields).map Prod.fst = fields.map Prod.fst := by
  rw [texts, List.map_map]
  rfl

theorem read_compact_texts {fields : List (String × String)} (kept : KeptFields fields)
    (once : (fields.map Prod.fst).Nodup) :
    read (write compact (.record (texts fields))) = .ok (.record (texts fields)) := by
  have proper : (Value.record (texts fields)).Proper := by
    refine ⟨?_, proper_texts kept⟩
    rw [texts_keys]
    exact once
  have yields : Yields (write compact (.record (texts fields))).toList (tokensOf (.record (texts fields))) := by
    rw [write, writeAt, write_fields_texts]
    exact yields_enclosed readable_compact 0 rfl rfl rfl rfl rfl (yields_members kept)
  have made := yields [] ends_nil
  rw [List.append_nil] at made
  rw [read, tokens, made]
  exact run_value _ proper [] []

theorem texts_inj {a b : List (String × String)} (same : texts a = texts b) : a = b := by
  have injective : Function.Injective fun field : String × String => (field.1, Value.text field.2) := by
    rintro ⟨k, v⟩ ⟨l, w⟩ equal
    cases equal
    rfl
  exact List.map_injective_iff.mpr injective same

theorem compact_texts_inj {a b : List (String × String)} (here : KeptFields a) (there : KeptFields b)
    (once : (a.map Prod.fst).Nodup) (others : (b.map Prod.fst).Nodup)
    (same : write compact (.record (texts a)) = write compact (.record (texts b))) : a = b := by
  have left := read_compact_texts here once
  have right := read_compact_texts there others
  rw [same, right] at left
  exact texts_inj (Value.record.inj (Except.ok.inj left)).symm

end EbsiDid.Json
