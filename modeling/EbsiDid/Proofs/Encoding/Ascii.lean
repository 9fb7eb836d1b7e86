import EbsiDid.Encoding.Utf8

set_option autoImplicit false

/-!
Texts of ASCII characters: their encoding has one byte for each character, and reads back.
-/
namespace EbsiDid.Encoding

def Ascii (chars : List Char) : Prop := ∀ c ∈ chars, c.toNat < 0x80

def asciiByte (c : Char) : UInt8 := UInt8.ofNat c.toNat

-- The text of bytes that are all ASCII.
def asciiText? (bytes : Bytes) : Option String :=
  if bytes.all fun b => decide (b.toNat < 0x80) then some (String.ofList (bytes.map fun b => Char.ofNat b.toNat)) else none

-- What holds of each ASCII character by a finite check.
theorem of_each_ascii {P : Char → Prop} (each : ∀ k : Fin 128, P (Char.ofNat k.val)) {c : Char} (ascii : c.toNat < 0x80) :
    P c := by
  have here := each ⟨c.toNat, ascii⟩
  simp only [Char.ofNat_toNat] at here
  exact here

theorem ascii_append {a b : List Char} (left : Ascii a) (right : Ascii b) : Ascii (a ++ b) := by
  intro c member
  rcases List.mem_append.mp member with here | there
  · exact left c here
  · exact right c there

theorem ascii_cons {c : Char} {chars : List Char} (first : c.toNat < 0x80) (rest : Ascii chars) : Ascii (c :: chars) := by
  intro d member
  rcases List.mem_cons.mp member with rfl | later
  · exact first
  · exact rest d later

theorem ascii_flatMap {α : Type} {items : List α} {f : α → List Char} (each : ∀ a ∈ items, Ascii (f a)) :
    Ascii (items.flatMap f) := by
  intro c member
  obtain ⟨a, among, inside⟩ := List.mem_flatMap.mp member
  exact each a among c inside

theorem points_of_ascii {chars : List Char} (ascii : Ascii chars) : Text.points chars = chars.map Char.toNat := by
  fun_induction Text.points chars with
  | case1 => rfl
  | case2 c => rfl
  | case3 d rest ih =>
      have mark := ascii Text.mark List.mem_cons_self
      exact absurd mark (by decide)
  | case4 c d rest plain ih =>
      rw [ih fun e member => ascii e (List.mem_cons_of_mem c member)]
      rfl

theorem utf8_of_ascii {text : String} (ascii : Ascii text.toList) : utf8 text = text.toList.map asciiByte := by
  rw [utf8, points_of_ascii ascii]
  generalize text.toList = chars at ascii
  induction chars with
  | nil => rfl
  | cons c rest ih =>
      have first : utf8Point c.toNat = [asciiByte c] := if_pos (ascii c List.mem_cons_self)
      rw [List.map_cons, List.flatMap_cons, first, ih fun d member => ascii d (List.mem_cons_of_mem c member)]
      rfl

theorem ascii_byte_to_nat {c : Char} (ascii : c.toNat < 0x80) : (asciiByte c).toNat = c.toNat := by
  rw [asciiByte, UInt8.toNat_ofNat']
  omega

theorem ascii_text_of_utf8 {text : String} (ascii : Ascii text.toList) : asciiText? (utf8 text) = some text := by
  have small : (text.toList.map asciiByte).all (fun b => decide (b.toNat < 0x80)) = true := by
    rw [List.all_map, List.all_eq_true]
    intro c member
    rw [Function.comp_apply, ascii_byte_to_nat (ascii c member), decide_eq_true_eq]
    exact ascii c member
  have same : ∀ c ∈ text.toList, Char.ofNat (asciiByte c).toNat = c := by
    intro c member
    rw [ascii_byte_to_nat (ascii c member), Char.ofNat_toNat]
  have chars : (text.toList.map asciiByte).map (fun b => Char.ofNat b.toNat) = text.toList := by
    rw [List.map_map]
    exact (List.map_congr_left same).trans (List.map_id' _)
  rw [utf8_of_ascii ascii, asciiText?, if_pos small, chars, String.ofList_toList]

end EbsiDid.Encoding
