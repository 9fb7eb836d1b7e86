import EbsiDid.Encoding.Utf8
import EbsiDid.Json.Writer

set_option autoImplicit false

/-!
Texts that keep no surrogate. Joining them and writing them in JSON gives such texts again, so that what
is written has an encoding.
-/
namespace EbsiDid.Text

def Scalars (chars : List Char) : Prop :=
  ∃ ps, chars = ofPoints ps ∧ ∀ p ∈ ps, p < 0x110000 ∧ isSurrogate p = false

theorem scalars_nil : Scalars [] := ⟨[], rfl, nofun⟩

theorem scalars_append {a b : List Char} (left : Scalars a) (right : Scalars b) : Scalars (a ++ b) := by
  obtain ⟨ps, rfl, small⟩ := left
  obtain ⟨qs, rfl, others⟩ := right
  refine ⟨ps ++ qs, List.flatMap_append.symm, ?_⟩
  intro p member
  cases List.mem_append.mp member with
  | inl here => exact small p here
  | inr there => exact others p there

theorem scalars_flatMap {α : Type} {items : List α} {f : α → List Char} (each : ∀ a ∈ items, Scalars (f a)) :
    Scalars (items.flatMap f) := by
  induction items with
  | nil => exact scalars_nil
  | cons a rest ih =>
      rw [List.flatMap_cons]
      refine scalars_append (each a List.mem_cons_self) (ih ?_)
      intro b member
      exact each b (List.mem_cons_of_mem a member)

theorem scalars_point {p : Nat} (small : p < 0x110000) (plain : isSurrogate p = false) : Scalars (ofPoint p) := by
  refine ⟨[p], by rw [ofPoints, List.flatMap_singleton], ?_⟩
  intro q member
  cases List.mem_singleton.mp member
  exact ⟨small, plain⟩

theorem scalars_char {c : Char} (ascii : c.toNat < 0x80) : Scalars [c] := by
  have plain : isSurrogate c.toNat = false := by
    simp only [isSurrogate, Bool.and_eq_false_iff, decide_eq_false_iff_not]
    omega
  have other : c.toNat ≠ mark.toNat := by
    have value : mark.toNat = 0xfdd0 := rfl
    omega
  have kept : ofPoint c.toNat = [c] := by
    rw [ofPoint, plain, if_neg Bool.false_ne_true, if_neg other, Char.ofNat_toNat]
  rw [← kept]
  exact scalars_point (toNat_small c) plain

theorem scalars_ascii {chars : List Char} (ascii : ∀ c ∈ chars, c.toNat < 0x80) : Scalars chars := by
  rw [← List.flatMap_singleton' chars]
  exact scalars_flatMap fun c member => scalars_char (ascii c member)

theorem scalars_plain {chars : List Char} (ascii : chars.all (fun c => c.toNat < 0x80) = true) : Scalars chars := by
  apply scalars_ascii
  intro c member
  exact of_decide_eq_true (List.all_eq_true.mp ascii c member)

theorem scalars_intercalate {separator : List Char} {parts : List (List Char)} (between : Scalars separator)
    (each : ∀ part ∈ parts, Scalars part) : Scalars (separator.intercalate parts) := by
  induction parts with
  | nil => exact scalars_nil
  | cons part rest ih =>
      have first := each part List.mem_cons_self
      cases rest with
      | nil =>
          rw [List.intercalate_singleton]
          exact first
      | cons next others =>
          rw [List.intercalate_cons_cons, List.append_assoc]
          refine scalars_append first (scalars_append between (ih ?_))
          intro other member
          exact each other (List.mem_cons_of_mem part member)

theorem has_surrogate_false_of_scalars {text : String} (scalars : Scalars text.toList) :
    hasSurrogate text = false := by
  obtain ⟨ps, kept, small⟩ := scalars
  rw [hasSurrogate, kept, points_ofPoints ps fun p member => (small p member).1]
  rw [List.any_eq_false]
  intro p member
  rw [(small p member).2]
  exact Bool.false_ne_true

theorem points_small (chars : List Char) : ∀ p ∈ points chars, p < 0x110000 := by
  fun_induction points chars with
  | case1 => exact nofun
  | case2 c =>
      intro p member
      cases List.mem_singleton.mp member
      exact toNat_small c
  | case3 d rest ih =>
      intro p member
      have bound := toNat_small d
      have value : mark.toNat = 0xfdd0 := rfl
      cases List.mem_cons.mp member with
      | inl here =>
          subst here
          split <;> omega
      | inr there => exact ih p there
  | case4 c d rest plain ih =>
      intro p member
      cases List.mem_cons.mp member with
      | inl here =>
          subst here
          exact toNat_small c
      | inr there => exact ih p there

end EbsiDid.Text

namespace EbsiDid.Json

open Text

theorem hex_digit_ascii (n : Nat) : (hexDigit (n % 16)).toNat < 0x80 := by
  have all : ∀ k : Fin 16, (hexDigit k.val).toNat < 0x80 := by decide
  exact all ⟨n % 16, Nat.mod_lt n (by decide)⟩

theorem hex_padded_ascii (width n : Nat) : ∀ c ∈ hexPadded width n, c.toNat < 0x80 := by
  induction width generalizing n with
  | zero => exact nofun
  | succ width ih =>
      intro c member
      cases List.mem_append.mp member with
      | inl here => exact ih (n / 16) c here
      | inr last =>
          cases List.mem_singleton.mp last
          exact hex_digit_ascii n

theorem escape4_ascii (n : Nat) : ∀ c ∈ escape4 n, c.toNat < 0x80 := by
  intro c member
  simp only [escape4, List.mem_cons] at member
  rcases member with rfl | rfl | member
  · decide
  · decide
  · exact hex_padded_ascii 4 n c member

-- With `asciiOnly` off a character is escaped by ASCII or kept as the point that it is.
theorem written_char_scalars (c : Char) (plain : isSurrogate c.toNat = false) : Scalars (writtenChar false c) := by
  unfold writtenChar
  repeat' split
  all_goals first
    | exact scalars_plain (by decide)
    | exact scalars_ascii (escape4_ascii _)
    | exact scalars_point (toNat_small c) plain
    | (rename_i impossible; exact absurd impossible.1 Bool.false_ne_true)

theorem written_text_scalars {s : String} (clean : hasSurrogate s = false) :
    Scalars (writtenText false s).toList := by
  have quote : Scalars ['"'] := scalars_char (by decide)
  have inside : Scalars ((points s.toList).flatMap (writtenPoint false)) := by
    refine scalars_flatMap ?_
    intro p member
    have plain : isSurrogate p = false := by
      simp only [hasSurrogate, List.any_eq_false, Bool.not_eq_true] at clean
      exact clean p member
    have value : (Char.ofNat p).toNat = p := toNat_ofNat p plain (points_small _ p member)
    rw [writtenPoint, plain, if_neg Bool.false_ne_true]
    exact written_char_scalars _ (by rw [value]; exact plain)
  rw [writtenText, String.toList_ofList]
  exact scalars_append quote (scalars_append inside quote)

theorem write_fields_scalars {fields : List (String × String)} (depth : Nat)
    (clean : ∀ field ∈ fields, hasSurrogate field.1 = false ∧ hasSurrogate field.2 = false) :
    ∀ part ∈ writeFields compact depth (fields.map fun field => (field.1, .text field.2)), Scalars part.toList := by
  induction fields with
  | nil => exact nofun
  | cons field rest ih =>
      intro part member
      cases List.mem_cons.mp member with
      | inr later => exact ih (fun other among => clean other (List.mem_cons_of_mem field among)) part later
      | inl here =>
          subst here
          have first := clean field List.mem_cons_self
          rw [String.toList_append, String.toList_append]
          exact scalars_append (scalars_append (written_text_scalars first.1) (scalars_char (by decide)))
            (written_text_scalars first.2)

theorem write_record_scalars {fields : List (String × String)}
    (clean : ∀ field ∈ fields, hasSurrogate field.1 = false ∧ hasSurrogate field.2 = false) :
    Scalars (write compact (.record (fields.map fun field => (field.1, .text field.2)))).toList := by
  rw [write, writeAt, Layout.enclosed]
  split
  · exact scalars_plain (by decide)
  · have parts : Scalars ((compact.itemSeparator ++ compact.line 1).toList.intercalate
        ((writeFields compact 1 (fields.map fun field => (field.1, .text field.2))).map String.toList)) := by
      refine scalars_intercalate (scalars_plain (by decide)) ?_
      intro part member
      obtain ⟨text, among, rfl⟩ := List.mem_map.mp member
      exact write_fields_scalars 1 clean text among
    rw [← String.toList_intercalate] at parts
    have opening : Scalars ("\x7b".toList ++ (compact.line 1).toList) := scalars_plain (by decide)
    have closing : Scalars ((compact.line 0).toList ++ "\x7d".toList) := scalars_plain (by decide)
    rw [← String.toList_append] at opening closing
    have whole := scalars_append (scalars_append opening parts) closing
    simpa only [String.toList_append, List.append_assoc, Nat.zero_add, Text.joined] using whole

end EbsiDid.Json
