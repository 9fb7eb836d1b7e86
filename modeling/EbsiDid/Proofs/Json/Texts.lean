import EbsiDid.Proofs.Json.Reading
import EbsiDid.Proofs.Json.Scalar

set_option autoImplicit false

/-!
Texts with every code point, written in ASCII and read back. A code point is written as it is, by a short escape,
by one unit or by two; the reader makes one code point of two units that pair up. So a text in which a high
surrogate stands right before a low one is read as another text, and every other text as itself.
-/
namespace EbsiDid.Json

open Text

/-! ### Units -/

theorem hex_digit_plain (n : Nat) : plainChar (hexDigit (n % 16)) = true := by
  have all : ∀ k : Fin 16, plainChar (hexDigit k.val) = true := by decide
  exact all ⟨n % 16, Nat.mod_lt n (by decide)⟩

theorem hex_digit_read (n : Nat) : Hex.digit? (hexDigit (n % 16)) = some (n % 16) :=
  Hex.digit_hexDigit (n % 16) (Nat.mod_lt n (by decide))

theorem hex_padded_four (n : Nat) : hexPadded 4 n =
    [hexDigit (n / 16 / 16 / 16 % 16), hexDigit (n / 16 / 16 % 16), hexDigit (n / 16 % 16), hexDigit (n % 16)] := rfl

theorem pieces_escape4 {n : Nat} (small : n < 0x10000) (rest : List Char) :
    pieces? (escape4 n ++ rest) = (pieces? rest).map (.unit n :: ·) := by
  have digits : hex4? (hexDigit (n / 16 / 16 / 16 % 16)) (hexDigit (n / 16 / 16 % 16)) (hexDigit (n / 16 % 16))
      (hexDigit (n % 16)) = some n := by
    simp only [hex4?, hex_digit_read]
    change some _ = some n
    congr 1
    omega
  rw [escape4, hex_padded_four]
  simp only [List.cons_append, List.nil_append, pieces?, digits]
  cases pieces? rest <;> rfl

/-! ### Code points -/

def High (p : Nat) : Prop := 0xd800 ≤ p ∧ p < 0xdc00
deriving Decidable

def Low (p : Nat) : Prop := 0xdc00 ≤ p ∧ p < 0xe000
deriving Decidable

-- How a code point is written, and in which pieces it is read.
inductive Spelling : Nat → List Char → List Piece → Prop where
  | plain (c : Char) : plainChar c = true → Spelling c.toNat [c] [.plain c]
  | short (c x : Char) : c.toNat < 0x80 → x ≠ 'u' → simpleEscape? x = some c → Spelling c.toNat ['\\', x] [.plain c]
  | unit (p : Nat) : p < 0x10000 → Spelling p (escape4 p) [.unit p]
  | pair (p high low : Nat) : High high → Low low → p = 0x10000 + (high - 0xd800) * 0x400 + (low - 0xdc00) →
      Spelling p (escape4 high ++ escape4 low) [.unit high, .unit low]

theorem of_point_ascii {c : Char} (ascii : c.toNat < 0x80) : ofPoint c.toNat = [c] := by
  have plain : isSurrogate c.toNat = false := by
    simp only [isSurrogate, Bool.and_eq_false_iff, decide_eq_false_iff_not]
    omega
  have other : c.toNat ≠ mark.toNat := by
    have value : mark.toNat = 0xfdd0 := rfl
    omega
  rw [ofPoint, plain, if_neg Bool.false_ne_true, if_neg other, Char.ofNat_toNat]

theorem escape_units_spelled (c : Char) : ∃ pieces, Spelling c.toNat (escapeUnits c) pieces := by
  have bound := toNat_small c
  unfold escapeUnits
  split
  · rename_i short
    exact ⟨_, .unit _ short⟩
  · refine ⟨_, .pair _ _ _ ⟨?_, ?_⟩ ⟨?_, ?_⟩ ?_⟩
    all_goals omega

theorem written_point_spelled {p : Nat} (small : p < 0x110000) : ∃ pieces, Spelling p (writtenPoint true p) pieces := by
  unfold writtenPoint
  split
  · rename_i surrogate
    simp only [isSurrogate, Bool.and_eq_true, decide_eq_true_eq] at surrogate
    exact ⟨_, .unit p (by omega)⟩
  · rename_i plain
    have value := toNat_ofNat p (eq_false_of_ne_true plain) small
    generalize Char.ofNat p = c at value
    subst value
    by_cases short : c ∈ ['"', '\\', '\n', '\r', '\t', '\x08', '\x0c']
    · simp only [List.mem_cons, List.not_mem_nil, or_false] at short
      rcases short with rfl | rfl | rfl | rfl | rfl | rfl | rfl
      all_goals exact ⟨_, .short _ _ (by decide) (by decide) rfl⟩
    · simp only [List.mem_cons, List.not_mem_nil, or_false, not_or] at short
      obtain ⟨quote, slash, line, carriage, tab, back, feed⟩ := short
      rw [writtenChar, if_neg quote, if_neg slash, if_neg line, if_neg carriage, if_neg tab, if_neg back,
        if_neg feed]
      split
      · rename_i control
        exact ⟨_, .unit _ (by omega)⟩
      split
      · exact escape_units_spelled c
      · rename_i printable ascii
        have high : c.toNat < 0x7f := Nat.lt_of_not_le fun above => ascii ⟨rfl, above⟩
        rw [of_point_ascii (by omega)]
        refine ⟨_, .plain c ?_⟩
        simp only [plainChar, Bool.and_eq_true, decide_eq_true_eq, bne_iff_ne]
        exact ⟨⟨⟨by omega, high⟩, quote⟩, slash⟩

theorem tokens_escaped (x : Char) (read rest : List Char) :
    tokensFrom (.text read) ('\\' :: x :: rest) = tokensFrom (.text (x :: '\\' :: read)) rest := by
  have slash : advance (.text read) '\\' = ([], .escaped ('\\' :: read)) := rfl
  have letter : advance (.escaped ('\\' :: read)) x = ([], .text (x :: '\\' :: read)) := rfl
  rw [tokens_cons slash, tokens_cons letter]
  rfl

theorem tokens_escape4 (n : Nat) (read rest : List Char) :
    tokensFrom (.text read) (escape4 n ++ rest) = tokensFrom (.text ((escape4 n).reverse ++ read)) rest := by
  have plain : ∀ c ∈ hexPadded 4 n, plainChar c = true := by
    rw [hex_padded_four]
    simp only [List.forall_mem_cons, hex_digit_plain]
    simp
  have inside := tokens_inside_text plain ('u' :: '\\' :: read) rest
  rw [escape4, List.cons_append, List.cons_append, tokens_escaped, inside]
  simp

section Spelling

variable {p : Nat} {chars : List Char} {pieces : List Piece}

theorem tokens_of_spelling (spelling : Spelling p chars pieces) (read rest : List Char) :
    tokensFrom (.text read) (chars ++ rest) = tokensFrom (.text (chars.reverse ++ read)) rest := by
  cases spelling with
  | plain c plain => exact tokens_inside_text (by simpa using plain) read rest
  | short c x ascii letter escape => exact tokens_escaped x read rest
  | unit _ small => exact tokens_escape4 _ read rest
  | pair _ high low _ _ _ =>
      rw [List.append_assoc, tokens_escape4, tokens_escape4, List.reverse_append, List.append_assoc]

theorem pieces_of_spelling (spelling : Spelling p chars pieces) (rest : List Char) :
    pieces? (chars ++ rest) = (pieces? rest).map (pieces ++ ·) := by
  cases spelling with
  | plain c plain => exact pieces_plain_cons plain rest
  | short c x ascii letter escape =>
      rw [List.cons_append, List.cons_append, List.nil_append, pieces?.eq_def]
      split
      · rename_i same
        cases same
      · rename_i same
        cases same
        exact absurd rfl letter
      · rename_i same
        cases same
        rw [escape]
        cases pieces? rest <;> rfl
      · rename_i other same
        cases same
        exact absurd rfl (other x rest rfl)
  | unit _ small => exact pieces_escape4 small rest
  | pair _ high low surrogate other _ =>
      rw [List.append_assoc, pieces_escape4 (by unfold High at surrogate; omega),
        pieces_escape4 (by unfold Low at other; omega), Option.map_map]
      rfl

end Spelling

/-! ### Texts -/

inductive Spelled : List Nat → List Char → List Piece → Prop where
  | nil : Spelled [] [] []
  | cons {p : Nat} {chars : List Char} {pieces : List Piece} {ps : List Nat} {more : List Char} {others : List Piece} :
      Spelling p chars pieces → Spelled ps more others → Spelled (p :: ps) (chars ++ more) (pieces ++ others)

theorem written_spelled {ps : List Nat} (small : ∀ p ∈ ps, p < 0x110000) :
    ∃ pieces, Spelled ps (ps.flatMap (writtenPoint true)) pieces := by
  induction ps with
  | nil => exact ⟨[], .nil⟩
  | cons p rest ih =>
      obtain ⟨pieces, first⟩ := written_point_spelled (small p List.mem_cons_self)
      obtain ⟨others, later⟩ := ih fun q member => small q (List.mem_cons_of_mem p member)
      exact ⟨pieces ++ others, .cons first later⟩

-- No high surrogate stands right before a low one.
def Unpaired : List Nat → Prop
  | p :: q :: rest => ¬ (High p ∧ Low q) ∧ Unpaired (q :: rest)
  | _ => True

instance decidableUnpaired : DecidablePred Unpaired
  | [] => .isTrue trivial
  | [_] => .isTrue trivial
  | p :: q :: rest =>
      have := decidableUnpaired (q :: rest)
      inferInstanceAs (Decidable (¬ (High p ∧ Low q) ∧ Unpaired (q :: rest)))

theorem joined_unit {u : Nat} {rest : List Piece} (alone : ∀ v more, rest = .unit v :: more → ¬ (High u ∧ Low v)) :
    joined (.unit u :: rest) = ofPoint u ++ joined rest := by
  match rest with
  | [] => rw [joined, joined, List.append_nil]
  | .plain c :: more => rfl
  | .unit v :: more =>
      rw [joined, if_neg]
      rintro ⟨a, b, c, d⟩
      exact alone v more rfl ⟨⟨a, b⟩, c, d⟩

section Spelled

variable {ps : List Nat} {chars : List Char} {pieces : List Piece}

theorem tokens_of_spelled (spelled : Spelled ps chars pieces) (read rest : List Char) :
    tokensFrom (.text read) (chars ++ rest) = tokensFrom (.text (chars.reverse ++ read)) rest := by
  induction spelled generalizing read with
  | nil => rfl
  | cons first later ih => rw [List.append_assoc, tokens_of_spelling first, ih, List.reverse_append, List.append_assoc]

theorem pieces_of_spelled (spelled : Spelled ps chars pieces) : pieces? chars = some pieces := by
  induction spelled with
  | nil => rfl
  | cons first later ih =>
      rw [pieces_of_spelling first, ih]
      rfl

-- A low surrogate among the units is one of the text itself, since a pair starts with a high one.
theorem low_unit {v : Nat} {more : List Piece} (spelled : Spelled ps chars (.unit v :: more)) (low : Low v) :
    ∃ rest, ps = v :: rest := by
  generalize units : Piece.unit v :: more = pieces at spelled
  cases spelled with
  | nil => cases units
  | cons first later =>
      cases first with
      | plain c plain => cases units
      | short c x ascii letter escape => cases units
      | unit p small =>
          cases units
          exact ⟨_, rfl⟩
      | pair p high other surrogate _ _ =>
          cases units
          unfold High at surrogate
          unfold Low at low
          omega

theorem joined_of_spelled (spelled : Spelled ps chars pieces) (unpaired : Unpaired ps) : joined pieces = ofPoints ps := by
  induction spelled with
  | nil => rfl
  | @cons p _ _ ps more others first later ih =>
      have after : Unpaired ps := by
        cases ps with
        | nil => trivial
        | cons q rest => exact unpaired.2
      rw [ofPoints, List.flatMap_cons, ← ofPoints, ← ih after]
      cases first with
      | plain c plain =>
          obtain ⟨_, ascii, _⟩ := plain_char_bounds plain
          rw [of_point_ascii (by omega)]
          rfl
      | short c x ascii letter escape =>
          rw [of_point_ascii ascii]
          rfl
      | unit _ small =>
          refine joined_unit ?_
          rintro v rest rfl ⟨high, low⟩
          obtain ⟨_, rfl⟩ := low_unit later low
          exact unpaired.1 ⟨high, low⟩
      | pair _ high low surrogate other same =>
          rw [List.cons_append, List.cons_append, List.nil_append, joined,
            if_pos ⟨surrogate.1, surrogate.2, other.1, other.2⟩, ← same]

end Spelled

-- Characters that keep a sequence of code points. Any text of the program does.
def Kept (s : String) : Prop := ofPoints (points s.toList) = s.toList
deriving Decidable

theorem kept_of_points {ps : List Nat} (small : ∀ p ∈ ps, p < 0x110000) : Kept (String.ofList (ofPoints ps)) := by
  rw [Kept, String.toList_ofList, points_ofPoints ps small]

theorem tokens_of_any_text {s : String} (kept : Kept s) (unpaired : Unpaired (points s.toList)) (rest : List Char) :
    tokensFrom .between ((writtenText true s).toList ++ rest) = .text s :: tokensFrom .between rest := by
  obtain ⟨pieces, spelled⟩ := written_spelled (points_small s.toList)
  have opening : advance .between '"' = ([], .text []) := rfl
  generalize inside : (points s.toList).flatMap (writtenPoint true) = chars at spelled
  have token : textToken chars = .text s := by
    rw [textToken, pieces_of_spelled spelled]
    simp only
    rw [joined_of_spelled spelled unpaired, kept, String.ofList_toList]
  have closing : advance (.text chars.reverse) '"' = ([.text s], .between) := by
    rw [advance, if_pos rfl, List.reverse_reverse, token]
  rw [writtenText, inside, String.toList_ofList, List.cons_append, tokens_cons opening, List.append_assoc, List.nil_append,
    tokens_of_spelled spelled, List.append_nil, List.singleton_append, tokens_cons closing]
  rfl

end EbsiDid.Json
