set_option autoImplicit false

/-!
Texts as sequences of code points, surrogates among them. A string of characters holds no surrogate;
it keeps one as a mark and a character of the private use area, and the mark itself as two marks.
`points` reads what is kept, and `points_ofPoints` says that nothing is lost.
-/
namespace EbsiDid.Text

/-- A code point that no character has. -/
def mark : Char := '\ufdd0'

def isSurrogate (point : Nat) : Bool := 0xd800 ≤ point && point < 0xe000

/-- How far the character beside a mark stands from its surrogate. -/
def shift : Nat := 0x800

/-- The characters that keep a code point. -/
def ofPoint (point : Nat) : List Char :=
  if isSurrogate point then [mark, Char.ofNat (point + shift)]
  else if point = mark.toNat then [mark, mark]
  else [Char.ofNat point]

def ofPoints (ps : List Nat) : List Char := ps.flatMap ofPoint

/-- The code points that characters keep. -/
def points : List Char → List Nat
  | [] => []
  | [c] => [c.toNat]
  | c :: d :: rest =>
      if c = mark then (if d = mark then mark.toNat else d.toNat - shift) :: points rest
      else c.toNat :: points (d :: rest)

def hasSurrogate (text : String) : Bool := (points text.toList).any isSurrogate

/-- Characters that stand for themselves, kept. -/
def keep (chars : List Char) : List Char := ofPoints (chars.map Char.toNat)

theorem toNat_ofNat (n : Nat) (plain : isSurrogate n = false) (small : n < 0x110000) :
    (Char.ofNat n).toNat = n := by
  have valid : n.isValidChar := by
    simp only [isSurrogate, Bool.and_eq_false_iff, decide_eq_false_iff_not] at plain
    simp only [Nat.isValidChar]
    omega
  unfold Char.ofNat
  rw [dif_pos valid]
  rfl

theorem points_ofPoint (p : Nat) (rest : List Char) (small : p < 0x110000) :
    points (ofPoint p ++ rest) = p :: points rest := by
  unfold ofPoint
  split
  · rename_i surrogate
    simp only [isSurrogate, Bool.and_eq_true, decide_eq_true_eq] at surrogate
    have moved : (Char.ofNat (p + shift)).toNat = p + shift := by
      apply toNat_ofNat
      · have above : ¬(p + shift < 0xe000) := by
          simp only [shift]
          omega
        simp [isSurrogate, above]
      · simp only [shift]
        omega
    have other : Char.ofNat (p + shift) ≠ mark := by
      intro same
      rw [same] at moved
      have value : mark.toNat = 0xfdd0 := rfl
      rw [value] at moved
      simp only [shift] at moved
      omega
    simp [points, other, moved]
  · rename_i plain
    split
    · rename_i same
      simp [points, same]
    · rename_i other
      have plain : isSurrogate p = false := by simpa using plain
      have value := toNat_ofNat p plain small
      have differs : Char.ofNat p ≠ mark := by
        intro same
        rw [same] at value
        exact other value.symm
      cases rest with
      | nil => simp [points, value]
      | cons d rest => simp [points, differs, value]

theorem points_ofPoints (ps : List Nat) (small : ∀ p ∈ ps, p < 0x110000) :
    points (ofPoints ps) = ps := by
  induction ps with
  | nil => rfl
  | cons p rest ih =>
      have first := small p List.mem_cons_self
      have later := ih fun q member => small q (List.mem_cons_of_mem p member)
      simp only [ofPoints, List.flatMap_cons] at later ⊢
      rw [points_ofPoint p _ first, later]

theorem toNat_small (c : Char) : c.toNat < 0x110000 := by
  have valid := c.valid
  simp only [UInt32.isValidChar, Nat.isValidChar] at valid
  show c.val.toNat < _
  omega

end EbsiDid.Text
