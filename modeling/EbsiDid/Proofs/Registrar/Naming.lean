import EbsiDid.Proofs.Encoding.Base58
import EbsiDid.Proofs.Json.Entries
import EbsiDid.Registrar.Directory
import EbsiDid.Registry.Spec
import Mathlib.Data.List.TakeWhile

set_option autoImplicit false

/-!
The ids that are drawn for new identifiers. An id spells the bytes that were drawn for it, so that other bytes have
another id; it is letters and digits throughout, so that its DID is read, and leads to the registrar of EBSI.
-/
namespace EbsiDid

/-! ### Drawn bytes -/

theorem Value.Numeric.less_natural (m n : Nat) : (Numeric.whole m).less (.whole n) = decide (m < n) := by
  have first : ¬ (m : Int) < 0 := by omega
  have second : ¬ (n : Int) < 0 := by omega
  simp [less, reading, Binary64.Reading.less, Binary64.ratioOfPowers, Number.negateIf, first, second]

namespace RandomStream

theorem take_bytes (r : RandomStream) {n : Nat} (enough : n ≤ r.bytes.length) :
    r.takeBytes (.int n) = (.ok (r.bytes.take n), { r with bytes := r.bytes.drop n }) := by
  have granted : grant r.bytes.length (.int n) = .ok n := by
    have left : ¬ r.bytes.length < n := Nat.not_lt.mpr enough
    simp [grant, Value.numeric?, Value.Numeric.less_natural, left, Value.whole?, count]
  rw [takeBytes, granted]

end RandomStream

namespace DidSpec

def versionOf : Option UInt8 → Value
  | none => .null
  | some v => .int v.toNat

def lengthOf : Option Nat → Value
  | none => .null
  | some n => .int n

-- How many bytes an id takes. No length, like none at all, means sixteen.
def idBytes : Option Nat → Nat
  | none => 16
  | some 0 => 16
  | some n => n

-- A length, or the usual one for none and for zero.
def lengthOr (usual : Nat) : Option Nat → Nat
  | none => usual
  | some 0 => usual
  | some n => n

theorem length_or_else (usual : Nat) (length : Option Nat) :
    (lengthOf length).orElse (.int usual) = .int (lengthOr usual length) := by
  match length with
  | none => rfl
  | some 0 => rfl
  | some (n + 1) =>
      have counts : (Value.int (n + 1 : Nat)).truthy = true := by
        rw [Value.truthy, decide_eq_true_eq]
        omega
      exact if_pos counts

theorem id_bytes_or (length : Option Nat) : idBytes length = lengthOr 16 length := by
  match length with
  | none => rfl
  | some 0 => rfl
  | some (n + 1) => rfl

theorem id_length {spec : DidSpec} {length : Option Nat} (sized : spec.didLength = lengthOf length) :
    spec.idLength = .int (idBytes length) := by
  rw [idLength, sized, id_bytes_or]
  exact length_or_else 16 length

end DidSpec

theorem version_bytes (version : Option UInt8) : versionBytes (DidSpec.versionOf version) = .ok version.toList := by
  cases version with
  | none => rfl
  | some v =>
      have bound := v.toNat_lt
      have fits : 0 ≤ (v.toNat : Int) ∧ (v.toNat : Int) < 256 := by omega
      simp [versionBytes, DidSpec.versionOf, Value.whole?, fits]

/-! ### The DID of an id -/

namespace Did

theorem alphanumeric_id_char {c : Char} (alphanumeric : c.isAlphanum = true) : isIdChar c = true := by
  have each : ∀ k : Fin 128, (Char.ofNat k.val).isAlphanum = true → isIdChar (Char.ofNat k.val) = true := by decide
  exact Encoding.of_each_ascii (P := fun c => c.isAlphanum = true → isIdChar c = true) each
    (Base58.alphanumeric_ascii alphanumeric) alphanumeric

section Alphanumeric

variable {chars : List Char} (alphanumeric : ∀ c ∈ chars, c.isAlphanum = true)

include alphanumeric

theorem newline_kept : dropNewline chars = chars := by
  apply if_neg
  intro last
  cases alphanumeric '\n' (List.mem_of_getLast? last)

theorem alphanumeric_is_id (nonempty : chars ≠ []) : isId chars = true := by
  have inside : ∀ c ∈ chars, isIdChar c = true := fun c member => alphanumeric_id_char (alphanumeric c member)
  have last := List.getLast?_eq_some_getLast nonempty
  rw [isId, Bool.and_eq_true, List.all_eq_true, last]
  constructor
  · intro c member
    rw [inside c member, Bool.true_or]
  · exact inside _ (List.getLast_mem nonempty)

end Alphanumeric

theorem after_mark_iff {chars rest : List Char} : afterMark chars = some rest ↔ chars = 'd' :: 'i' :: 'd' :: ':' :: rest := by
  constructor
  · intro marked
    unfold afterMark at marked
    split at marked
    · cases marked
      rfl
    · cases marked
  · rintro rfl
    rfl

theorem method_kept {method : List Char} (plain : ∀ c ∈ method, isMethodChar c = true) (rest : List Char) :
    (method ++ ':' :: rest).takeWhile isMethodChar = method ∧ (method ++ ':' :: rest).dropWhile isMethodChar = ':' :: rest := by
  have stops : ¬ isMethodChar ':' = true := by decide
  rw [List.takeWhile_append_of_pos plain, List.dropWhile_append_of_pos plain]
  rw [List.takeWhile_cons_of_neg stops, List.dropWhile_cons_of_neg stops, List.append_nil]
  exact ⟨rfl, rfl⟩

theorem spelt_chars (method rest : String) : ("did:" ++ method ++ ":" ++ rest).toList =
    'd' :: 'i' :: 'd' :: ':' :: (method.toList ++ ':' :: rest.toList) := by
  simp only [String.toList_append]
  rw [List.append_assoc, List.append_assoc]
  rfl

-- A method between two colons, and after them an id, perhaps with a newline.
structure Spells (text : String) (did : Did) : Prop where
  named : did.method ≠ ""
  plain : ∀ c ∈ did.method.toList, isMethodChar c = true
  parts : ∃ rest, text = "did:" ++ did.method ++ ":" ++ rest ∧ isId (dropNewline rest.toList) = true ∧
    did.id = String.ofList (dropNewline rest.toList)

theorem spells_ebsi {rest : String} (fits : isId (dropNewline rest.toList) = true) :
    Spells ("did:ebsi:" ++ rest) ⟨"ebsi", String.ofList (dropNewline rest.toList)⟩ := by
  have named : "ebsi" ≠ "" := by decide
  have plain : ∀ c ∈ "ebsi".toList, isMethodChar c = true := List.all_eq_true.mp rfl
  exact ⟨named, plain, rest, rfl, fits, rfl⟩

theorem spells_of_parse {text : String} {did : Did} (read : parse? text = some did) : Spells text did := by
  cases marked : afterMark text.toList with
  | none =>
      simp only [parse?, marked, bind, Option.bind] at read
      cases read
  | some chars =>
      simp only [parse?, marked, bind, Option.bind] at read
      split at read
      · cases read
      · rename_i full
        split at read
        · rename_i more after
          split at read
          · rename_i fit
            cases read
            have parts := List.takeWhile_append_dropWhile (p := isMethodChar) (l := chars)
            rw [after] at parts
            refine ⟨?_, ?_, String.ofList more, ?_, ?_, ?_⟩
            · intro empty
              rw [String.ofList_eq_empty_iff] at empty
              exact full (List.isEmpty_iff.mpr empty)
            · intro c member
              rw [String.toList_ofList] at member
              exact List.mem_takeWhile_imp member
            · apply String.toList_inj.mp
              rw [after_mark_iff.mp marked, spelt_chars, String.toList_ofList, String.toList_ofList, parts]
            · rw [String.toList_ofList]
              exact fit
            · rw [String.toList_ofList]
          · cases read
        · cases read

theorem parse_of_spells {text : String} {did : Did} (spelt : Spells text did) : parse? text = some did := by
  obtain ⟨method, id⟩ := did
  obtain ⟨named, plain, rest, rfl, fits, rfl⟩ := spelt
  obtain ⟨taken, dropped⟩ := method_kept plain rest.toList
  have full : ¬ method.toList.isEmpty = true := by
    intro empty
    exact named (String.toList_inj.mp (List.isEmpty_iff.mp empty))
  simp only [parse?, after_mark_iff.mpr (spelt_chars method rest), bind, Option.bind, taken, dropped, if_neg full]
  rw [if_pos fits, String.ofList_toList]
  rfl

theorem parse_iff {text : String} {did : Did} : parse? text = some did ↔ Spells text did :=
  ⟨spells_of_parse, parse_of_spells⟩

theorem parse_ebsi {id : String} (nonempty : id ≠ "") (alphanumeric : ∀ c ∈ id.toList, c.isAlphanum = true) :
    parse? ("did:ebsi:" ++ id) = some ⟨"ebsi", id⟩ := by
  have full : id.toList ≠ [] := fun empty => nonempty (String.toList_inj.mp empty)
  have kept := newline_kept alphanumeric
  have fits : isId (dropNewline id.toList) = true := by
    rw [kept]
    exact alphanumeric_is_id alphanumeric full
  rw [parse_of_spells (spells_ebsi fits), kept, String.ofList_toList]

end Did

namespace Directory

variable {ρ : Type}

theorem registrar_for_parsed (d : Directory ρ) {did : String} {parsed : Did} (read : Did.parse? did = some parsed) :
    d.registrarFor .null (.text did) = d.lookup (.text parsed.method) := by
  have nonempty : did ≠ "" := by
    rintro rfl
    cases read
  have given : (Value.text did).truthy = true := decide_eq_true nonempty
  have none_given : Value.null.truthy = false := rfl
  have method : methodOf (.text did) = .ok (.text parsed.method) := by
    rw [methodOf, Did.ofValue, read]
  simp only [registrarFor, given, none_given, method]
  rfl

theorem lookup_registered {d after : Directory ρ} {method : Value} {r : ρ} (registered : d.register method r = .ok after) :
    after.lookup method = .ok r := by
  unfold register at registered
  by_cases scalar : method.hashable = true
  · rw [if_pos scalar] at registered
    cases registered
    rw [lookup, if_pos scalar, put, Entries.get_put_same scalar]
  · rw [if_neg scalar] at registered
    cases registered

end Directory

/-! ### Ids and what they name -/

-- The id spells the bytes, and its DID leads every directory to what is registered for EBSI.
structure Names (id : String) (bytes : Bytes) : Prop where
  spelt : ∃ text, id = "z" ++ text ∧ Base58.decode text = .ok bytes
  alphanumeric : ∀ c ∈ id.toList, c.isAlphanum = true
  parsed : Did.parse? ("did:ebsi:" ++ id) = some ⟨"ebsi", id⟩
  sought : ∀ {ρ : Type} (d : Directory ρ), d.registrarFor .null (.text ("did:ebsi:" ++ id)) = d.lookup (.text "ebsi")
  found : ∀ {ρ : Type} (d after : Directory ρ) (r : ρ), d.register (.text "ebsi") r = .ok after →
    after.registrarFor .null (.text ("did:ebsi:" ++ id)) = .ok r

theorem names_encoded (bytes : Bytes) : Names (multibaseMark ++ Base58.encode bytes) bytes := by
  have alphanumeric : ∀ c ∈ (multibaseMark ++ Base58.encode bytes).toList, c.isAlphanum = true := by
    rw [String.toList_append, Base58.encode, String.toList_ofList]
    intro c member
    rcases List.mem_cons.mp member with rfl | later
    · rfl
    · exact Base58.alphanumeric_encoded bytes c later
  have nonempty : multibaseMark ++ Base58.encode bytes ≠ "" := by
    intro empty
    have chars := congrArg String.toList empty
    rw [String.toList_append] at chars
    cases chars
  have parsed := Did.parse_ebsi nonempty alphanumeric
  refine ⟨⟨_, rfl, Base58.decode_encode bytes⟩, alphanumeric, parsed, ?_, ?_⟩
  · exact fun d => d.registrar_for_parsed parsed
  · intro ρ d after r registered
    rw [Directory.registrar_for_parsed _ parsed]
    exact Directory.lookup_registered registered

namespace RandomStream

-- A version of one byte or none, a length or none, and bytes enough for them.
structure Suffices (r : RandomStream) (spec : DidSpec) (version : Option UInt8) (length : Option Nat) : Prop where
  versioned : spec.version = DidSpec.versionOf version
  sized : spec.didLength = DidSpec.lengthOf length
  enough : DidSpec.idBytes length ≤ r.bytes.length

-- The version byte and the next bytes of the stream.
def idMaterial (r : RandomStream) (version : Option UInt8) (length : Option Nat) : Bytes :=
  version.toList ++ r.bytes.take (DidSpec.idBytes length)

section Drawn

variable {r : RandomStream} {spec : DidSpec} {version : Option UInt8} {length : Option Nat}

theorem draws_id (enough : r.Suffices spec version length) :
    r.ebsiMethodSpecificId spec = (.ok (multibaseMark ++ Base58.encode (r.idMaterial version length)),
      { r with bytes := r.bytes.drop (DidSpec.idBytes length) }) := by
  rw [ebsiMethodSpecificId, methodSpecificId, DidSpec.id_length enough.sized, enough.versioned, version_bytes]
  simp only [take_bytes r enough.enough]
  rfl

-- Every id that is drawn names its bytes, takes no more of the stream than them, and is the id of no others.
theorem method_specific_ids (enough : r.Suffices spec version length) :
    ∃ id, r.ebsiMethodSpecificId spec = (.ok id, { r with bytes := r.bytes.drop (DidSpec.idBytes length) }) ∧
      Names id (r.idMaterial version length) ∧
      ∀ {other : RandomStream} {spec' : DidSpec} {version' : Option UInt8} {length' : Option Nat},
        other.Suffices spec' version' length' → (other.ebsiMethodSpecificId spec').1 = .ok id →
        other.idMaterial version' length' = r.idMaterial version length := by
  refine ⟨_, draws_id enough, names_encoded _, ?_⟩
  intro other spec' version' length' plenty drawn
  rw [draws_id plenty] at drawn
  have chars := congrArg String.toList (Except.ok.inj drawn)
  rw [String.toList_append, String.toList_append] at chars
  exact Base58.encode_inj (String.toList_inj.mp (List.append_cancel_left chars))

end Drawn

-- Zero bytes in front, those of the version among them, are kept.
theorem method_specific_ids_leading_zeros :
    let r : RandomStream := ⟨[0, 0, 57, 58], []⟩
    let spec : DidSpec := ⟨.text "Legal Entity", .text "did:ebsi:", .int 0, .int 3, .null⟩
    (r.Suffices spec (some 0) (some 3) ∧ r.idMaterial (some 0) (some 3) = [0, 0, 0, 57]) ∧
    ∃ id, r.ebsiMethodSpecificId spec = (.ok id, ⟨[58], []⟩) ∧ Names id (r.idMaterial (some 0) (some 3)) ∧
      ∀ {other : RandomStream} {spec' : DidSpec} {version' : Option UInt8} {length' : Option Nat},
        other.Suffices spec' version' length' → (other.ebsiMethodSpecificId spec').1 = .ok id →
        other.idMaterial version' length' = r.idMaterial (some 0) (some 3) := by
  intro r spec
  have enough : r.Suffices spec (some 0) (some 3) := ⟨rfl, rfl, by decide⟩
  exact ⟨⟨enough, rfl⟩, method_specific_ids enough⟩

end RandomStream

end EbsiDid
