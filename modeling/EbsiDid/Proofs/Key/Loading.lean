import EbsiDid.Key.PublicKey
import EbsiDid.Proofs.Curve.Decoding
import EbsiDid.Proofs.Encoding.Hex

set_option autoImplicit false

/-!
The texts that spell a public key. A text loads as a point exactly when it spells one of the three forms of that
point, and whatever is computed from it is a function of the point.
-/
namespace EbsiDid

namespace PublicKey

-- A public key as it is handed over: a text, or nothing.
def given : Option String → Value
  | some text => .text text
  | none => .null

def forms (q : Point) : List Bytes :=
  [Sec1.compressed q, Sec1.uncompressed q, Sec1.coordinate q.x ++ Sec1.coordinate q.y]

-- Nothing counts as the empty text.
structure Spells (type : KeyType) (key : Option String) (q : Point) : Prop where
  on : (Curve.ofType type).holds q = true
  spelt : ∃ form ∈ forms q, Hex.SpellsMarked (key.getD "") form

theorem text_of_given (key : Option String) : textOf (given key) = .ok (key.getD "") := by
  cases key with
  | none => rfl
  | some text => rfl

theorem tagged_decodes {type : KeyType} {raw : Bytes} {q : Point} :
    Sec1.decode? (Curve.ofType type) (tagged raw) = some q ↔ (Curve.ofType type).holds q = true ∧ raw ∈ forms q := by
  have compressed := Sec1.compressed_length q
  have uncompressed := Sec1.uncompressed_length q
  have coordinates : (Sec1.coordinate q.x ++ Sec1.coordinate q.y).length = 64 := by
    rw [List.length_append, Sec1.coordinate_length, Sec1.coordinate_length]
  rw [Sec1.decode_iff, tagged]
  simp only [forms, List.mem_cons, List.not_mem_nil, or_false]
  apply and_congr_right
  intro _
  -- The length tells the forms apart: the tag is missing when there are 64 bytes, and then only.
  by_cases untagged : raw.length = 64
  · rw [if_pos untagged]
    constructor
    · rintro (same | same)
      · rw [← same, List.length_cons] at compressed
        omega
      · exact .inr (.inr (List.tail_eq_of_cons_eq same))
    · rintro (same | same | same)
      · rw [same] at untagged
        omega
      · rw [same] at untagged
        omega
      · rw [same]
        exact .inr rfl
  · rw [if_neg untagged]
    constructor
    · rintro (same | same)
      · exact .inl same
      · exact .inr (.inl same)
    · rintro (same | same | same)
      · exact .inl same
      · exact .inr same
      · rw [same] at untagged
        exact absurd coordinates untagged

theorem load_iff {type : KeyType} {key : Option String} {q : Point} :
    load (given key) type = .ok q ↔ Spells type key q := by
  have run : load (given key) type = ofText (key.getD "") type := by
    rw [load, text_of_given]
    rfl
  rw [run, ofText]
  constructor
  · intro loaded
    cases decoded : Hex.decode (Hex.stripMark (key.getD "")) with
    | none =>
        rw [decoded] at loaded
        cases loaded
    | some raw =>
        cases point : Sec1.decode? (Curve.ofType type) (tagged raw) with
        | none =>
            simp only [decoded, point] at loaded
            cases loaded
        | some other =>
            simp only [decoded, point] at loaded
            cases loaded
            obtain ⟨on, form⟩ := tagged_decodes.mp point
            exact ⟨on, raw, form, Hex.decode_strip_iff.mp decoded⟩
  · rintro ⟨on, raw, form, spelt⟩
    have decoded := Hex.decode_strip_iff.mpr spelt
    have point := tagged_decodes.mpr ⟨on, form⟩
    simp only [decoded, point]

theorem spelt_encoded {type : KeyType} {q : Point} {form : Bytes} (on : (Curve.ofType type).holds q = true)
    (among : form ∈ forms q) : Spells type (some (Hex.encode form)) q := by
  have spelt := Hex.decode_chars_spelt (Hex.decode_encode form)
  exact ⟨on, form, among, "", List.mem_cons_self, Hex.encode form, String.empty_append.symm, spelt⟩

theorem spelt_uncompressed {type : KeyType} {q : Point} (on : (Curve.ofType type).holds q = true) :
    Spells type (some (Hex.encode (Sec1.uncompressed q))) q := by
  have among : Sec1.uncompressed q ∈ forms q := by simp [forms]
  exact spelt_encoded on among

-- Only texts load.
theorem load_spelt {type : KeyType} {v : Value} {q : Point} (loaded : load v type = .ok q) :
    ∃ key, Spells type key q := by
  cases text : textOf v with
  | error e =>
      rw [load, text] at loaded
      cases loaded
  | ok s =>
      refine ⟨some s, load_iff.mp ?_⟩
      rw [load, text] at loaded
      exact loaded

theorem load_on {type : KeyType} {v : Value} {q : Point} (loaded : load v type = .ok q) :
    (Curve.ofType type).holds q = true := by
  obtain ⟨key, spelt⟩ := load_spelt loaded
  exact spelt.on

theorem load_error {type : KeyType} {key : Option String} {e : Error} (failed : load (given key) type = .error e) :
    e.kind = .validation := by
  rw [load, text_of_given] at failed
  change ofText (key.getD "") type = .error e at failed
  unfold ofText at failed
  split at failed
  · cases failed
    rfl
  · split at failed
    · cases failed
    · cases failed
      rfl

theorem load_refused {type : KeyType} {key : Option String} (unspelt : ∀ q, ¬ Spells type key q) :
    ∃ e, load (given key) type = .error e ∧ e.kind = .validation := by
  cases loaded : load (given key) type with
  | ok q => exact absurd (load_iff.mp loaded) (unspelt q)
  | error e => exact ⟨e, rfl, load_error loaded⟩

theorem spelt_fits {type : KeyType} {key : Option String} {q : Point} (spelt : Spells type key q) :
    ∀ n ∈ [q.x, q.y], n < 256 ^ 32 ∧ Encoding.toNat (Sec1.coordinate n) = n := by
  obtain ⟨x, y, _⟩ := Curve.holds_iff.mp spelt.on
  have fits := Curve.p_fits type
  intro n member
  simp only [List.mem_cons, List.not_mem_nil, or_false] at member
  rcases member with rfl | rfl
  · exact ⟨Nat.lt_trans x fits, Sec1.coordinate_to_nat x⟩
  · exact ⟨Nat.lt_trans y fits, Sec1.coordinate_to_nat y⟩

/-! ### The same text on the other curve -/

theorem compressed_inj {q r : Point} (same : Sec1.compressed q = Sec1.compressed r) :
    Sec1.coordinate q.x = Sec1.coordinate r.x ∧ q.y % 2 = r.y % 2 := by
  obtain ⟨tags, x⟩ := List.cons.inj same
  refine ⟨x, ?_⟩
  by_cases even : q.y % 2 = 0 <;> by_cases evenToo : r.y % 2 = 0 <;> simp [even, evenToo] at tags
  · rw [even, evenToo]
  · omega

theorem coordinates_inj {q r : Point}
    (same : Sec1.coordinate q.x ++ Sec1.coordinate q.y = Sec1.coordinate r.x ++ Sec1.coordinate r.y) :
    Sec1.coordinate q.x = Sec1.coordinate r.x ∧ Sec1.coordinate q.y = Sec1.coordinate r.y :=
  List.append_inj same (by rw [Sec1.coordinate_length, Sec1.coordinate_length])

-- The lengths tell the forms of points apart.
theorem form_by_length {q : Point} {form : Bytes} (among : form ∈ forms q) :
    form.length = 33 ∧ form = Sec1.compressed q ∨ form.length = 65 ∧ form = Sec1.uncompressed q ∨
      form.length = 64 ∧ form = Sec1.coordinate q.x ++ Sec1.coordinate q.y := by
  simp only [forms, List.mem_cons, List.not_mem_nil, or_false] at among
  rcases among with same | same | same
  · exact .inl ⟨same ▸ Sec1.compressed_length q, same⟩
  · exact .inr (.inl ⟨same ▸ Sec1.uncompressed_length q, same⟩)
  · refine .inr (.inr ⟨?_, same⟩)
    rw [same, List.length_append, Sec1.coordinate_length, Sec1.coordinate_length]

-- Two points share their compressed forms or all of their coordinates.
theorem forms_shared {q r : Point} {form : Bytes} (first : form ∈ forms q) (second : form ∈ forms r) :
    form = Sec1.compressed q ∧ form = Sec1.compressed r ∨
      form ≠ Sec1.compressed q ∧ Sec1.coordinate q.x = Sec1.coordinate r.x ∧ Sec1.coordinate q.y = Sec1.coordinate r.y := by
  have short : form = Sec1.compressed q → form.length = 33 := fun same => same ▸ Sec1.compressed_length q
  rcases form_by_length first with ⟨length, same⟩ | ⟨length, same⟩ | ⟨length, same⟩ <;>
    rcases form_by_length second with ⟨lengthToo, sameToo⟩ | ⟨lengthToo, sameToo⟩ | ⟨lengthToo, sameToo⟩ <;>
    try omega
  · exact .inl ⟨same, sameToo⟩
  · have long : form ≠ Sec1.compressed q := fun compressed => absurd (short compressed) (by omega)
    exact .inr ⟨long, coordinates_inj (List.tail_eq_of_cons_eq (same.symm.trans sameToo))⟩
  · have long : form ≠ Sec1.compressed q := fun compressed => absurd (short compressed) (by omega)
    exact .inr ⟨long, coordinates_inj (same.symm.trans sameToo)⟩

theorem coordinate_inj {type other : KeyType} {n m : Nat} (below : n < (Curve.ofType type).p)
    (under : m < (Curve.ofType other).p) (same : Sec1.coordinate n = Sec1.coordinate m) : n = m := by
  rw [← Sec1.coordinate_to_nat below, same, Sec1.coordinate_to_nat under]

-- A compressed form is read on a curve wherever the curve has a point over its first coordinate. Other forms
-- are read only if both curves have the very point.
theorem spells_other_iff {type other : KeyType} {key : Option String} {q : Point} (spelt : Spells type key q) :
    (∃ r, Spells other key r) ↔
      (Hex.SpellsMarked (key.getD "") (Sec1.compressed q) ∧
        ∃ y, (Curve.ofType other).holds ⟨q.x, y⟩ = true ∧ y % 2 = q.y % 2) ∨
      (¬ Hex.SpellsMarked (key.getD "") (Sec1.compressed q) ∧ (Curve.ofType other).holds q = true) := by
  obtain ⟨on, form, among, text⟩ := spelt
  obtain ⟨x, y, _⟩ := Curve.holds_iff.mp on
  have only : ∀ bytes, Hex.SpellsMarked (key.getD "") bytes → bytes = form := by
    intro bytes spells
    have decoded := Hex.decode_strip_iff.mpr spells
    rw [Hex.decode_strip_iff.mpr text] at decoded
    exact (Option.some.inj decoded).symm
  constructor
  · rintro ⟨r, onOther, formToo, amongToo, textToo⟩
    rw [only formToo textToo] at amongToo
    obtain ⟨xToo, yToo, _⟩ := Curve.holds_iff.mp onOther
    rcases forms_shared among amongToo with ⟨short, shortToo⟩ | ⟨long, sameX, sameY⟩
    · obtain ⟨sameX, parity⟩ := compressed_inj (short.symm.trans shortToo)
      refine .inl ⟨short ▸ text, r.y, ?_, parity.symm⟩
      rw [coordinate_inj x xToo sameX]
      exact onOther
    · refine .inr ⟨fun compressed => long (only _ compressed).symm, ?_⟩
      have same : q = r := by
        cases q
        cases r
        rw [Point.mk.injEq]
        exact ⟨coordinate_inj x xToo sameX, coordinate_inj y yToo sameY⟩
      rw [same]
      exact onOther
  · rintro (⟨compressed, z, onOther, parity⟩ | ⟨_, onOther⟩)
    · have same : Sec1.compressed ⟨q.x, z⟩ = Sec1.compressed q := by simp only [Sec1.compressed, parity]
      exact ⟨⟨q.x, z⟩, onOther, Sec1.compressed ⟨q.x, z⟩, List.mem_cons_self, same ▸ compressed⟩
    · exact ⟨q, onOther, form, among, text⟩

section ByPoint

variable {α : Type} {type other : KeyType} {key owner : Option String}

-- The result is made of the point alone that the key spells. Where it spells none, it is a validation error.
structure ByPoint (type : KeyType) (key : Option String) (make : Point → α) (result : Except Error α) : Prop where
  spelt : ∀ q, Spells type key q → result = .ok (make q)
  unspelt : (∀ q, ¬ Spells type key q) → ∃ e, result = .error e ∧ e.kind = .validation

-- As before, for the points that two keys spell.
structure ByPoints (other : KeyType) (owner : Option String) (type : KeyType) (key : Option String)
    (make : Point → Point → α) (result : Except Error α) : Prop where
  spelt : ∀ q, Spells other owner q → ByPoint type key (make q) result
  unspelt : (∀ q, ¬ Spells other owner q) → ∃ e, result = .error e ∧ e.kind = .validation

theorem by_point_cases {make : Point → α} {result : Except Error α} (by_point : ByPoint type key make result) :
    (∃ q, result = .ok (make q)) ∨ ∃ e, result = .error e ∧ e.kind = .validation := by
  by_cases spelt : ∃ q, Spells type key q
  · obtain ⟨q, spelt⟩ := spelt
    exact .inl ⟨q, by_point.spelt q spelt⟩
  · exact .inr (by_point.unspelt (not_exists.mp spelt))

theorem by_point_error {make : Point → α} {result : Except Error α} (by_point : ByPoint type key make result) {e : Error}
    (failed : result = .error e) : e.kind = .validation := by
  obtain ⟨q, made⟩ | ⟨other, error, kind⟩ := by_point_cases by_point
  · rw [made] at failed
    cases failed
  · rw [error] at failed
    cases failed
    exact kind

theorem by_point_of_load {make : Point → α} {result : Except Error α}
    (loaded : ∀ q, load (given key) type = .ok q → result = .ok (make q))
    (failed : ∀ e, load (given key) type = .error e → result = .error e) : ByPoint type key make result := by
  constructor
  · intro q spelt
    exact loaded q (load_iff.mpr spelt)
  · intro unspelt
    obtain ⟨e, error, kind⟩ := load_refused unspelt
    exact ⟨e, failed e error, kind⟩

theorem by_points_of_load {make : Point → Point → α} {result : Except Error α}
    (loaded : ∀ q r, load (given owner) other = .ok q → load (given key) type = .ok r → result = .ok (make q r))
    (ownerFailed : ∀ e, load (given owner) other = .error e → result = .error e)
    (failed : ∀ q e, load (given owner) other = .ok q → load (given key) type = .error e → result = .error e) :
    ByPoints other owner type key make result := by
  constructor
  · intro q spelt
    have sends := load_iff.mpr spelt
    exact by_point_of_load (fun r loads => loaded q r sends loads) fun e error => failed q e sends error
  · intro unspelt
    obtain ⟨e, error, kind⟩ := load_refused unspelt
    exact ⟨e, ownerFailed e error, kind⟩

end ByPoint

end PublicKey

theorem load_uncompressed {type : KeyType} {q : Point} (on : (Curve.ofType type).holds q = true) :
    PublicKey.load (.text (Hex.encode (Sec1.uncompressed q))) type = .ok q := by
  have loaded := PublicKey.load_iff.mpr (PublicKey.spelt_uncompressed on)
  rw [PublicKey.given] at loaded
  exact loaded

end EbsiDid
