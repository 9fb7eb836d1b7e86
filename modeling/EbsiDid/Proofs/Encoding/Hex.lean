import EbsiDid.Encoding.Hex
import EbsiDid.Proofs.Encoding.Ascii

set_option autoImplicit false

/-!
Which texts spell which bytes in hexadecimal: two digits for each byte, in either case, with blanks before, between
and after the pairs, and at most one mark in front.
-/
namespace EbsiDid.Hex

def IsDigit (n : Nat) (c : Char) : Prop := n < 16 ∧ (c = Text.hexDigit n ∨ c = (Text.hexDigit n).toUpper)

instance (n : Nat) (c : Char) : Decidable (IsDigit n c) :=
  inferInstanceAs (Decidable (n < 16 ∧ (c = Text.hexDigit n ∨ c = (Text.hexDigit n).toUpper)))

inductive Spells : List Char → Bytes → Prop where
  | done : Spells [] []
  | blank {c : Char} {chars : List Char} {bytes : Bytes} (space : isBlank c = true) (rest : Spells chars bytes) :
      Spells (c :: chars) bytes
  | pair {b : UInt8} {high low : Char} {chars : List Char} {bytes : Bytes} (first : IsDigit (b.toNat / 16) high)
      (second : IsDigit (b.toNat % 16) low) (rest : Spells chars bytes) : Spells (high :: low :: chars) (b :: bytes)

def SpellsMarked (text : String) (bytes : Bytes) : Prop :=
  ∃ mark ∈ ["", "0x", "0X"], ∃ rest, text = mark ++ rest ∧ Spells rest.toList bytes

theorem digit_ascii {c : Char} {n : Nat} (read : digit? c = some n) : c.toNat < 128 := by
  unfold digit? at read
  split at read
  · rename_i bounds
    exact Nat.lt_of_le_of_lt bounds.2 (by decide : '9'.toNat < 128)
  · split at read
    · rename_i bounds
      exact Nat.lt_of_le_of_lt bounds.2 (by decide : 'f'.toNat < 128)
    · split at read
      · rename_i bounds
        exact Nat.lt_of_le_of_lt bounds.2 (by decide : 'F'.toNat < 128)
      · cases read

theorem digit_iff {c : Char} {n : Nat} : digit? c = some n ↔ IsDigit n c := by
  constructor
  · intro read
    have each : ∀ k : Fin 128, ∀ n ∈ digit? (Char.ofNat k.val), IsDigit n (Char.ofNat k.val) := by decide
    exact Encoding.of_each_ascii (P := fun c => ∀ n ∈ digit? c, IsDigit n c) each (digit_ascii read) n read
  · have upper : ∀ k : Fin 16, digit? (Text.hexDigit k.val).toUpper = some k.val := by decide
    rintro ⟨small, rfl | rfl⟩
    · exact digit_hexDigit n small
    · exact upper ⟨n, small⟩

theorem digit_not_blank {c : Char} {n : Nat} (digit : IsDigit n c) : isBlank c = false := by
  have upper : ∀ k : Fin 16, isBlank (Text.hexDigit k.val).toUpper = false := by decide
  obtain ⟨small, rfl | rfl⟩ := digit
  · exact hexDigit_not_blank n small
  · exact upper ⟨n, small⟩

theorem byte_of_digits {high low : Nat} (first : high < 16) (second : low < 16) :
    (UInt8.ofNat (high * 16 + low)).toNat / 16 = high ∧ (UInt8.ofNat (high * 16 + low)).toNat % 16 = low := by
  rw [UInt8.toNat_ofNat']
  omega

theorem digits_of_byte (b : UInt8) : UInt8.ofNat (b.toNat / 16 * 16 + b.toNat % 16) = b := by
  rw [Nat.div_add_mod' b.toNat 16, UInt8.ofNat_toNat]

theorem decode_chars_spelt {chars : List Char} {bytes : Bytes} (decoded : decodeChars chars = some bytes) :
    Spells chars bytes := by
  fun_induction decodeChars chars generalizing bytes with
  | case1 =>
      cases decoded
      exact .done
  | case2 c rest space ih => exact .blank space (ih decoded)
  | case3 c nonblank => cases decoded
  | case4 c nonblank d more ih =>
      simp only [bind, pure, Option.bind_eq_some_iff, Option.some.injEq] at decoded
      obtain ⟨high, first, low, second, others, rest, rfl⟩ := decoded
      have upper := digit_iff.mp first
      have lower := digit_iff.mp second
      obtain ⟨quotient, remainder⟩ := byte_of_digits upper.1 lower.1
      apply Spells.pair
      · rw [quotient]
        exact upper
      · rw [remainder]
        exact lower
      · exact ih rest

theorem decode_chars_of_spelt {chars : List Char} {bytes : Bytes} (spelt : Spells chars bytes) :
    decodeChars chars = some bytes := by
  induction spelt with
  | done => rfl
  | blank space rest ih => simp only [decodeChars.eq_def (_ :: _), space, if_true, ih]
  | pair first second rest ih =>
      simp only [decodeChars, digit_not_blank first, digit_iff.mpr first, digit_iff.mpr second, ih, bind, Option.bind, pure,
        digits_of_byte, Bool.false_eq_true, if_false]

-- The letter of a mark is not a digit, so that a text with a mark spells nothing as long as the mark is kept.
theorem marked_not_spelt {chars : List Char} {bytes : Bytes} (marked : hasMark chars = true) : ¬ Spells chars bytes := by
  intro spelt
  have decoded := decode_chars_of_spelt spelt
  unfold hasMark at marked
  split at marked
  · cases decoded
  · cases decoded
  · cases marked

theorem strip_mark {mark : String} (known : mark ∈ ["0x", "0X"]) (rest : String) : stripMark (mark ++ rest) = rest := by
  simp only [List.mem_cons, List.not_mem_nil, or_false] at known
  rcases known with rfl | rfl <;> simp [stripMark, hasMark]

theorem strip_unmarked {text : String} (unmarked : hasMark text.toList ≠ true) : stripMark text = text := by
  rw [stripMark, if_neg unmarked]

theorem mark_of_marked {text : String} (marked : hasMark text.toList = true) :
    ∃ mark ∈ ["0x", "0X"], ∃ rest, text = mark ++ rest := by
  unfold hasMark at marked
  split at marked
  · rename_i rest chars
    refine ⟨"0x", by simp, String.ofList rest, ?_⟩
    rw [← String.toList_inj, chars]
    simp
  · rename_i rest chars
    refine ⟨"0X", by simp, String.ofList rest, ?_⟩
    rw [← String.toList_inj, chars]
    simp
  · cases marked

theorem decode_strip_iff {text : String} {bytes : Bytes} : decode (stripMark text) = some bytes ↔ SpellsMarked text bytes := by
  constructor
  · intro decoded
    by_cases marked : hasMark text.toList = true
    · obtain ⟨mark, known, rest, rfl⟩ := mark_of_marked marked
      rw [strip_mark known] at decoded
      exact ⟨mark, List.mem_cons_of_mem _ known, rest, rfl, decode_chars_spelt decoded⟩
    · rw [strip_unmarked marked] at decoded
      exact ⟨"", List.mem_cons_self, text, String.empty_append.symm, decode_chars_spelt decoded⟩
  · rintro ⟨mark, known, rest, rfl, spelt⟩
    have decoded := decode_chars_of_spelt spelt
    rcases List.mem_cons.mp known with rfl | marked
    · have unmarked : hasMark rest.toList ≠ true := fun marked => marked_not_spelt marked spelt
      rw [String.empty_append, strip_unmarked unmarked]
      exact decoded
    · rw [strip_mark marked]
      exact decoded

theorem strip_encode (bytes : Bytes) : stripMark (encode bytes) = encode bytes :=
  strip_unmarked fun marked => marked_not_spelt marked (decode_chars_spelt (decode_encode bytes))

theorem encode_inj {a b : Bytes} (same : encode a = encode b) : a = b := by
  have decoded := congrArg decode same
  rw [decode_encode, decode_encode] at decoded
  exact Option.some.inj decoded

theorem encode_length (bytes : Bytes) : (encode bytes).length = 2 * bytes.length := by
  rw [encode, String.length_ofList]
  induction bytes with
  | nil => rfl
  | cons b rest ih =>
      rw [List.flatMap_cons, List.length_append, ih, List.length_cons, encodeByte]
      simp only [List.length_cons, List.length_nil]
      omega

theorem encode_digits (bytes : Bytes) : ∀ c ∈ (encode bytes).toList, c ∈ "0123456789abcdef".toList := by
  have all : ∀ k : Fin 16, Text.hexDigit k.val ∈ "0123456789abcdef".toList := by decide
  rw [encode, String.toList_ofList]
  intro c member
  obtain ⟨b, _, inside⟩ := List.mem_flatMap.mp member
  have bound := b.toNat_lt
  simp only [encodeByte, List.mem_cons, List.not_mem_nil, or_false] at inside
  rcases inside with rfl | rfl
  · exact all ⟨b.toNat / 16, by omega⟩
  · exact all ⟨b.toNat % 16, by omega⟩

theorem encode_tagged (rest : Bytes) : encode (4 :: rest) = "04" ++ encode rest := by
  have digits : String.ofList (encodeByte 4) = "04" := rfl
  rw [encode, List.flatMap_cons, String.ofList_append, digits]
  rfl

end EbsiDid.Hex
