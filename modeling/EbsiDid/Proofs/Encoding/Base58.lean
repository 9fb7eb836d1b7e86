import EbsiDid.Encoding.Base58
import EbsiDid.Proofs.Encoding.Ascii
import EbsiDid.Proofs.Number.Digits

set_option autoImplicit false

/-!
Bytes in base 58 and back. Zero bytes in front are counted by themselves; behind them stands one number, whose
digits are determined by it and determine it.
-/
namespace EbsiDid

/-! ### Bytes as the digits of a number -/

namespace Encoding

theorem to_nat_digits (bytes : Bytes) : toNat bytes = Number.ofDigits 256 (bytes.map UInt8.toNat) := by
  rw [toNat, Number.ofDigits, List.foldl_map]

theorem to_nat_cons (b : UInt8) (rest : Bytes) : toNat (b :: rest) = b.toNat * 256 ^ rest.length + toNat rest := by
  have split := Number.of_digits_append 256 [b.toNat] (rest.map UInt8.toNat)
  rw [to_nat_digits, to_nat_digits, List.map_cons, ← List.singleton_append, split, List.length_map]
  simp [Number.ofDigits]

theorem to_nat_zeros (n : Nat) (rest : Bytes) : toNat (List.replicate n 0 ++ rest) = toNat rest := by
  rw [to_nat_digits, to_nat_digits, List.map_append, List.map_replicate]
  exact Number.of_digits_leading_zeros 256 n _

theorem to_nat_below (bytes : Bytes) : toNat bytes < 256 ^ bytes.length := by
  induction bytes with
  | nil => decide
  | cons b rest ih =>
      have bound := b.toNat_lt
      rw [to_nat_cons, List.length_cons, Nat.pow_succ]
      calc b.toNat * 256 ^ rest.length + toNat rest < b.toNat * 256 ^ rest.length + 256 ^ rest.length := by omega
        _ = (b.toNat + 1) * 256 ^ rest.length := by rw [Nat.add_mul, Nat.one_mul]
        _ ≤ 256 * 256 ^ rest.length := Nat.mul_le_mul_right _ (by omega)
        _ = 256 ^ rest.length * 256 := Nat.mul_comm ..

-- A first byte that is not zero counts for its whole place.
theorem byte_length_to_nat {b : UInt8} (led : b ≠ 0) (rest : Bytes) : byteLength (toNat (b :: rest)) = rest.length + 1 := by
  have positive : 0 < b.toNat := by
    apply Nat.pos_of_ne_zero
    intro zero
    exact led (UInt8.toNat_inj.mp zero)
  have least : 256 ^ rest.length ≤ toNat (b :: rest) := by
    rw [to_nat_cons]
    exact Nat.le_trans (Nat.le_mul_of_pos_left _ positive) (Nat.le_add_right _ _)
  have most := to_nat_below (b :: rest)
  generalize toNat (b :: rest) = n at least most
  have nonzero : n ≠ 0 := by
    have power : 0 < 256 ^ rest.length := Nat.pow_pos (by decide)
    omega
  have base : 256 = 2 ^ 8 := rfl
  rw [base, ← Nat.pow_mul] at least most
  have low := (Nat.le_log2 nonzero).mpr least
  have high := (Nat.log2_lt nonzero).mpr most
  rw [byteLength, if_neg nonzero]
  rw [List.length_cons] at high
  omega

theorem minimal_to_nat {bytes : Bytes} (led : bytes.head? ≠ some 0) : minimalBytes (toNat bytes) = bytes := by
  cases bytes with
  | nil => rfl
  | cons b rest =>
      have first : b ≠ 0 := fun zero => led (congrArg some zero)
      rw [minimalBytes, byte_length_to_nat first]
      exact bigEndian_toNat rfl

end Encoding

namespace Base58

open Encoding

/-! ### Digits and their characters -/

theorem digits_value (n : Nat) : Number.ofDigits 58 (digits n) = n := by
  fun_induction digits n with
  | case1 => rfl
  | case2 n nonzero ih =>
      rw [Number.of_digits_append, ih]
      simp only [Number.ofDigits, List.length_singleton, List.foldl_cons, List.foldl_nil]
      omega

theorem digits_below (n : Nat) : ∀ d ∈ digits n, d < 58 := by
  fun_induction digits n with
  | case1 => exact nofun
  | case2 n nonzero ih =>
      intro d member
      rcases List.mem_append.mp member with front | last
      · exact ih d front
      · rw [List.mem_singleton.mp last]
        exact Nat.mod_lt n (by decide)

theorem digits_led (n : Nat) : (digits n).head? ≠ some 0 := by
  fun_induction digits n with
  | case1 => nofun
  | case2 n nonzero ih =>
      by_cases small : n / 58 = 0
      · rw [small, digits, if_pos rfl, List.nil_append, List.head?_cons, ne_eq, Option.some.injEq]
        omega
      · rw [digits, if_neg small] at ih ⊢
        simpa using ih

theorem value_char {d : Nat} (below : d < 58) : value? (char d) = some d := by
  have all : ∀ k : Fin 58, value? (char k.val) = some k.val := by decide
  exact all ⟨d, below⟩

theorem char_one {d : Nat} (below : d < 58) (one : char d = '1') : d = 0 := by
  have read := value_char below
  rw [one] at read
  exact (Option.some.inj read).symm

theorem char_alphanumeric {d : Nat} (below : d < 58) : (char d).isAlphanum = true := by
  have all : ∀ k : Fin 58, (char k.val).isAlphanum = true := by decide
  exact all ⟨d, below⟩

theorem values_chars {ds : List Nat} (below : ∀ d ∈ ds, d < 58) : (ds.map char).mapM value? = some ds := by
  induction ds with
  | nil => rfl
  | cons d rest ih =>
      have later := ih fun e member => below e (List.mem_cons_of_mem d member)
      rw [List.map_cons, List.mapM_cons, value_char (below d List.mem_cons_self), later]
      rfl

/-! ### What is written is read back -/

theorem leading_split {α : Type} [DecidableEq α] (x : α) (items : List α) :
    ∃ n rest, items = List.replicate n x ++ rest ∧ rest.head? ≠ some x := by
  induction items with
  | nil => exact ⟨0, [], rfl, nofun⟩
  | cons y more ih =>
      by_cases same : y = x
      · obtain ⟨n, rest, split, other⟩ := ih
        exact ⟨n + 1, rest, by rw [split, same, List.replicate_succ, List.cons_append], other⟩
      · exact ⟨0, y :: more, rfl, by simpa using same⟩

section Leading

variable {α : Type} [BEq α] [LawfulBEq α] {x : α} {rest : List α}

theorem leading_taken (n : Nat) (other : rest.head? ≠ some x) :
    (List.replicate n x ++ rest).takeWhile (· == x) = List.replicate n x := by
  induction n with
  | zero =>
      cases rest with
      | nil => rfl
      | cons y more =>
          have different : y ≠ x := by simpa using other
          simp [different]
  | succ n ih => rw [List.replicate_succ, List.cons_append, List.takeWhile_cons_of_pos (by simp), ih]

theorem leading_dropped (n : Nat) (other : rest.head? ≠ some x) :
    (List.replicate n x ++ rest).dropWhile (· == x) = rest := by
  induction n with
  | zero =>
      cases rest with
      | nil => rfl
      | cons y more =>
          have different : y ≠ x := by simpa using other
          simp [different]
  | succ n ih => rw [List.replicate_succ, List.cons_append, List.dropWhile_cons_of_pos (by simp), ih]

end Leading

theorem encode_leading (n : Nat) {rest : Bytes} (led : rest.head? ≠ some 0) :
    encodeChars (List.replicate n 0 ++ rest) = List.replicate n '1' ++ (digits (toNat rest)).map char := by
  rw [encodeChars, leading_taken n led, List.length_replicate, to_nat_zeros]

theorem chars_led (n : Nat) : ((digits n).map char).head? ≠ some '1' := by
  have led := digits_led n
  have below := digits_below n
  cases listed : digits n with
  | nil => nofun
  | cons d rest =>
      rw [listed] at led below
      rw [List.map_cons, List.head?_cons, ne_eq, Option.some.injEq]
      intro one
      exact led (congrArg some (char_one (below d List.mem_cons_self) one))

theorem decode_encode_chars (bytes : Bytes) : decodeChars (encodeChars bytes) = some bytes := by
  obtain ⟨n, rest, rfl, led⟩ := leading_split 0 bytes
  rw [encode_leading n led, decodeChars, leading_dropped n (chars_led _), leading_taken n (chars_led _),
    values_chars (digits_below _), List.length_replicate]
  change some (List.replicate n 0 ++ minimalBytes (Number.ofDigits 58 (digits (toNat rest)))) = _
  rw [digits_value, minimal_to_nat led]

theorem alphanumeric_encoded (bytes : Bytes) : ∀ c ∈ encodeChars bytes, c.isAlphanum = true := by
  intro c member
  rcases List.mem_append.mp member with one | digit
  · rw [List.eq_of_mem_replicate one]
    rfl
  · obtain ⟨d, among, rfl⟩ := List.mem_map.mp digit
    exact char_alphanumeric (digits_below _ d among)

theorem alphanumeric_ascii {c : Char} (alphanumeric : c.isAlphanum = true) : c.toNat < 0x80 := by
  have small (d : Char) (below : c.val ≤ d.val) (ascii : d.toNat < 0x80) : c.toNat < 0x80 := Nat.lt_of_le_of_lt below ascii
  rcases (Bool.or_eq_true _ _).mp alphanumeric with letter | digit
  · rcases (Bool.or_eq_true _ _).mp letter with upper | lower
    · exact small 'Z' (of_decide_eq_true upper).2 (by decide)
    · exact small 'z' (of_decide_eq_true ((Bool.and_eq_true _ _).mp lower).2) (by decide)
  · exact small '9' (of_decide_eq_true ((Bool.and_eq_true _ _).mp digit).2) (by decide)

theorem alphanumeric_no_blank {c : Char} (alphanumeric : c.isAlphanum = true) : Text.isBlank c = false := by
  have each : ∀ k : Fin 128, (Char.ofNat k.val).isAlphanum = true → Text.isBlank (Char.ofNat k.val) = false := by decide
  exact Encoding.of_each_ascii (P := fun c => c.isAlphanum = true → Text.isBlank c = false) each
    (alphanumeric_ascii alphanumeric) alphanumeric

theorem trim_right_kept {chars : List Char} (solid : ∀ c ∈ chars, Text.isBlank c = false) :
    Text.trimRight chars = chars := by
  have kept : Text.trimLeft chars.reverse = chars.reverse := by
    cases listed : chars.reverse with
    | nil => rfl
    | cons c rest =>
        have first : c ∈ chars := by
          rw [← List.mem_reverse, listed]
          exact List.mem_cons_self
        exact List.dropWhile_cons_of_neg (by simp [solid c first])
  rw [Text.trimRight, kept, List.reverse_reverse]

-- All bytes come back, the leading zeros among them.
theorem decode_encode (bytes : Bytes) : decode (encode bytes) = .ok bytes := by
  have alphanumeric := alphanumeric_encoded bytes
  have solid : Text.trimRight (encodeChars bytes) = encodeChars bytes :=
    trim_right_kept fun c member => alphanumeric_no_blank (alphanumeric c member)
  have ascii : (encodeChars bytes).any (fun c => 0x80 ≤ c.toNat) = false := by
    rw [List.any_eq_false]
    intro c member
    have small := alphanumeric_ascii (alphanumeric c member)
    rw [decide_eq_true_eq]
    omega
  rw [decode, encode, String.toList_ofList]
  simp only [solid, ascii, decode_encode_chars]
  rfl

theorem encode_inj {a b : Bytes} (same : encode a = encode b) : a = b := by
  have decoded := congrArg decode same
  rw [decode_encode, decode_encode] at decoded
  exact Except.ok.inj decoded

end Base58
end EbsiDid
