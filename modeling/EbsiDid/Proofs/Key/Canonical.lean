import EbsiDid.Proofs.Json.Compact
import EbsiDid.Proofs.Key.Thumbprint

set_option autoImplicit false

/-!
The text of a JSON Web Key that its thumbprint is the digest of. It says which type the key has and what each member
is that the type requires, and nothing else: two keys have one text exactly when they agree on these.
-/
namespace EbsiDid

theorem Json.kept_of_scalars {s : String} (scalars : Text.Scalars s.toList) : Json.Kept s := by
  obtain ⟨ps, same, small⟩ := scalars
  rw [Json.Kept, same, Text.points_ofPoints ps fun p member => (small p member).1]

namespace Jwk

/-! ### Required members -/

-- The key has a type, and the type requires these members.
def Requires (jwk : Record) (members : List String) : Prop :=
  ∃ kty, jwk.get "kty" = .text kty ∧ requiredMembers? kty = some members

-- The member is a text that is not empty.
def Full (jwk : Record) (member : String) : Prop := ∃ s, jwk.get member = .text s ∧ s ≠ ""

-- The first member in lexicographic order that is not full.
structure FirstMissing (jwk : Record) (members : List String) (member : String) : Prop where
  required : member ∈ members
  missing : ¬ Full jwk member
  before : ∀ other ∈ members, other < member → Full jwk other

-- One type, and one value for each member that it requires.
structure Agree (a b : Record) : Prop where
  kty : a.get "kty" = b.get "kty"
  required : ∀ members, Requires a members → ∀ member ∈ members, a.get member = b.get member

theorem required_members {jwk : Record} {members : List String} (required : Requires jwk members) :
    "kty" ∈ members ∧ members.Pairwise (· < ·) ∧ ∀ member ∈ members, Json.Plain member := by
  obtain ⟨kty, _, known⟩ := required
  unfold requiredMembers? at known
  split at known
  case h_5 => cases known
  all_goals
    cases known
    decide

theorem members_of_iff {jwk : Record} {members : List String} : membersOf jwk = .ok members ↔ Requires jwk members := by
  unfold membersOf
  constructor
  · intro made
    split at made
    · rename_i found
      cases made
      obtain ⟨kty, typed, required⟩ := Option.bind_eq_some_iff.mp found
      refine ⟨kty, ?_, required⟩
      cases value : jwk.get "kty" <;> rw [value] at typed <;> cases typed
      rfl
    · cases made
  · rintro ⟨kty, typed, required⟩
    have found : (jwk.get "kty").text?.bind requiredMembers? = some members := by
      rw [typed]
      exact required
    rw [found]

theorem members_of_untyped {jwk : Record} (untyped : ∀ members, ¬ Requires jwk members) :
    membersOf jwk = .error .unsupportedJwkType := by
  cases made : membersOf jwk with
  | ok members => exact absurd (members_of_iff.mp made) (untyped members)
  | error e =>
      unfold membersOf at made
      split at made
      · cases made
      · exact made.symm

theorem agree_members {a b : Record} (agree : Agree a b) : membersOf a = membersOf b := by
  rw [membersOf, membersOf, agree.kty]

/-! ### Components -/

theorem components_congr {a b : Record} {members : List String}
    (same : ∀ member ∈ members, a.get member = b.get member) : components a members = components b members := by
  induction members with
  | nil => rfl
  | cons member rest ih =>
      have later := ih fun other among => same other (List.mem_cons_of_mem member among)
      rw [components, components, same member List.mem_cons_self, later]

theorem components_parts {jwk : Record} {members : List String} {parts : List (String × String)}
    (made : components jwk members = .ok parts) :
    parts.map Prod.fst = members ∧ ∀ part ∈ parts, jwk.get part.1 = .text part.2 := by
  induction members generalizing parts with
  | nil =>
      cases made
      exact ⟨rfl, nofun⟩
  | cons member rest ih =>
      unfold components at made
      split at made
      · rename_i s found
        split at made
        · cases made
        · cases later : components jwk rest with
          | error e =>
              rw [later] at made
              cases made
          | ok more =>
              rw [later] at made
              cases made
              obtain ⟨names, values⟩ := ih later
              rw [List.map_cons, names, List.forall_mem_cons]
              exact ⟨rfl, found, values⟩
      · cases made

theorem components_full {jwk : Record} {members : List String} (full : ∀ member ∈ members, Full jwk member) :
    ∃ parts, components jwk members = .ok parts := by
  induction members with
  | nil => exact ⟨[], rfl⟩
  | cons member rest ih =>
      obtain ⟨s, found, nonempty⟩ := full member List.mem_cons_self
      obtain ⟨more, others⟩ := ih fun other later => full other (List.mem_cons_of_mem member later)
      exact ⟨_, components_cons found nonempty others⟩

theorem components_not_full {jwk : Record} {member : String} (missing : ¬ Full jwk member) (rest : List String) :
    components jwk (member :: rest) = .error (.missingClaim member) := by
  unfold components
  split
  · rename_i s found
    rw [if_pos (Classical.not_not.mp fun nonempty => missing ⟨s, found, nonempty⟩)]
  · rfl

-- The members come in order, so the first that is reached is the least.
theorem components_missing {jwk : Record} {members : List String} {member : String} (sorted : members.Pairwise (· < ·))
    (first : FirstMissing jwk members member) : components jwk members = .error (.missingClaim member) := by
  induction members with
  | nil => cases first.required
  | cons head rest ih =>
      obtain ⟨least, ordered⟩ := List.pairwise_cons.mp sorted
      rcases List.mem_cons.mp first.required with rfl | later
      · exact components_not_full first.missing rest
      · obtain ⟨s, found, nonempty⟩ := first.before head List.mem_cons_self (least member later)
        have before (other : String) (among : other ∈ rest) := first.before other (List.mem_cons_of_mem head among)
        have failed := ih ordered ⟨later, first.missing, before⟩
        rw [components, found]
        simp only [if_neg nonempty, failed]
        rfl

/-! ### The text -/

-- What is hashed. No digest has a part in it.
def hashedText (jwk : Record) : Except Error String := do
  let members ← membersOf jwk
  let parts ← components jwk members
  return canonicalText parts

-- The thumbprint is the digest of the text.
structure Hashes (jwk : Record) (digest : Value) (text thumbprint : String) : Prop where
  hashed : hashedText jwk = .ok text
  digested : ∃ algorithm, Digest.ofValue digest = .ok algorithm ∧
    thumbprint = Base64.encode Base64.url (algorithm.apply (Encoding.utf8 text))

def ScalarTexts (jwk : Record) : Prop := ∀ member s, jwk.get member = .text s → Text.Scalars s.toList

theorem scalar_texts_of_fields {jwk : Record} (each : ∀ field ∈ jwk, ∀ s, field.2 = .text s → Text.Scalars s.toList) :
    ScalarTexts jwk := by
  intro member s found
  cases value : jwk.get? member with
  | none =>
      rw [Record.get, value] at found
      cases found
  | some v =>
      rw [Record.get, value] at found
      exact each _ (Record.mem_of_get? value) s found

theorem hashed_text_parts {jwk : Record} {text : String} (hashed : hashedText jwk = .ok text) :
    ∃ members parts, Requires jwk members ∧ components jwk members = .ok parts ∧ canonicalText parts = text := by
  unfold hashedText at hashed
  cases required : membersOf jwk with
  | error e =>
      rw [required] at hashed
      cases hashed
  | ok members =>
      cases made : components jwk members with
      | error e =>
          simp only [required, bind, Except.bind, made] at hashed
          cases hashed
      | ok parts =>
          simp only [required, bind, Except.bind, made] at hashed
          cases hashed
          exact ⟨members, parts, members_of_iff.mp required, made, rfl⟩

theorem agree_text {a b : Record} (agree : Agree a b) : hashedText a = hashedText b := by
  rw [hashedText, hashedText, ← agree_members agree]
  cases required : membersOf a with
  | error e => rfl
  | ok members =>
      have same := components_congr (agree.required members (members_of_iff.mp required))
      simp only [bind, Except.bind, same]

section Parts

variable {jwk : Record} {members : List String} {parts : List (String × String)} (required : Requires jwk members)
  (made : components jwk members = .ok parts)

include required made

theorem parts_once : (parts.map Prod.fst).Nodup := by
  rw [(components_parts made).1]
  refine (required_members required).2.1.imp ?_
  rintro a b less rfl
  exact String.lt_irrefl a less

theorem parts_scalars (scalars : ScalarTexts jwk) :
    ∀ part ∈ parts, Text.Scalars part.1.toList ∧ Text.Scalars part.2.toList := by
  obtain ⟨names, values⟩ := components_parts made
  intro part member
  have among : part.1 ∈ members := names ▸ List.mem_map.mpr ⟨part, member, rfl⟩
  have plain := (required_members required).2.2 part.1 among
  exact ⟨Text.scalars_ascii (Json.plain_ascii plain), scalars _ _ (values part member)⟩

theorem parts_kept (scalars : ScalarTexts jwk) : Json.KeptFields parts := by
  intro part member
  obtain ⟨name, value⟩ := parts_scalars required made scalars part member
  exact ⟨Json.kept_of_scalars name, Json.kept_of_scalars value⟩

theorem canonical_text_clean (scalars : ScalarTexts jwk) : Text.hasSurrogate (canonicalText parts) = false := by
  refine Text.has_surrogate_false_of_scalars (Json.write_record_scalars ?_)
  intro part member
  obtain ⟨name, value⟩ := parts_scalars required made scalars part member
  exact ⟨Text.has_surrogate_false_of_scalars name, Text.has_surrogate_false_of_scalars value⟩

end Parts

-- One list of parts says of both keys what they are.
theorem agree_of_parts {a b : Record} {members others : List String} {parts : List (String × String)}
    (here : Requires a members) (made : components a members = .ok parts) (again : components b others = .ok parts) :
    Agree a b := by
  obtain ⟨names, values⟩ := components_parts made
  obtain ⟨_, same⟩ := components_parts again
  have each : ∀ member ∈ members, a.get member = b.get member := by
    rw [← names]
    intro member among
    obtain ⟨part, inside, rfl⟩ := List.mem_map.mp among
    rw [values part inside, same part inside]
  refine ⟨each "kty" (required_members here).1, ?_⟩
  obtain ⟨kty, typed, known⟩ := here
  rintro alike ⟨type, again, found⟩
  rw [typed, Value.text.injEq] at again
  rw [← again, known, Option.some.injEq] at found
  rw [← found]
  exact each

-- From a text its parts are read back, and the parts hold the type and each required member.
theorem text_same_iff {a b : Record} {text more : String} (scalars : ScalarTexts a) (clean : ScalarTexts b)
    (here : hashedText a = .ok text) (there : hashedText b = .ok more) : text = more ↔ Agree a b := by
  constructor
  · intro same
    obtain ⟨members, parts, required, made, written⟩ := hashed_text_parts here
    obtain ⟨others, pieces, requires, remade, rewritten⟩ := hashed_text_parts there
    have one : canonicalText parts = canonicalText pieces := by rw [written, rewritten, same]
    have equal : parts = pieces := Json.compact_texts_inj (parts_kept required made scalars)
      (parts_kept requires remade clean) (parts_once required made) (parts_once requires remade) one
    rw [← equal] at remade
    exact agree_of_parts required made remade
  · intro agree
    rw [agree_text agree, there] at here
    exact (Except.ok.inj here).symm

/-! ### The thumbprint -/

theorem digest_known {name : String} (known : name ∈ ["sha256", "sha512"]) :
    ∃ algorithm, Digest.ofValue (.text name) = .ok algorithm := by
  simp only [List.mem_cons, List.not_mem_nil, or_false] at known
  rcases known with rfl | rfl
  · exact ⟨.sha256, rfl⟩
  · exact ⟨.sha512, rfl⟩

theorem digest_unknown {name : String} (unknown : name ∉ ["sha256", "sha512"]) :
    Digest.ofValue (.text name) = .error (.unsupportedDigest name) := by
  unfold Digest.ofValue
  split
  · rename_i same
    cases same
    exact absurd List.mem_cons_self unknown
  · rename_i same
    cases same
    exact absurd (List.mem_cons_of_mem _ List.mem_cons_self) unknown
  · rfl

theorem thumbprint_hashes {jwk : Record} {digest : Value} {t : String} (made : thumbprint (.record jwk) digest = .ok t) :
    ∃ text, Hashes jwk digest text t := by
  change thumbprintOf jwk digest = .ok t at made
  unfold thumbprintOf at made
  cases required : membersOf jwk with
  | error e =>
      rw [required] at made
      cases made
  | ok members =>
      cases known : Digest.ofValue digest with
      | error e =>
          simp only [required, known, bind, Except.bind] at made
          cases made
      | ok algorithm =>
          cases components : components jwk members with
          | error e =>
              simp only [required, known, components, bind, Except.bind] at made
              cases made
          | ok parts =>
              have hashed : hashedText jwk = .ok (canonicalText parts) := by
                rw [hashedText, required]
                simp only [bind, Except.bind, components]
                rfl
              simp only [required, known, components, bind, Except.bind, Encoding.utf8?] at made
              split at made
              · rename_i encoded
                split at encoded
                · cases encoded
                · cases encoded
                  cases made
                  exact ⟨_, hashed, algorithm, known, rfl⟩
              · cases made

theorem agree_thumbprint {a b : Record} (agree : Agree a b) (digest : Value) :
    thumbprint (.record a) digest = thumbprint (.record b) digest := by
  change thumbprintOf a digest = thumbprintOf b digest
  rw [thumbprintOf, thumbprintOf, ← agree_members agree]
  cases required : membersOf a with
  | error e => rfl
  | ok members =>
      have same := components_congr (agree.required members (members_of_iff.mp required))
      simp only [bind, Except.bind, same]

-- What comes of a key: the type is looked at first, the digest next, then the members in order.
structure Settled (jwk : Record) (name : String) (outcome : Except Error String) : Prop where
  untyped : (∀ members, ¬ Requires jwk members) → outcome = .error .unsupportedJwkType
  undigested : ∀ members, Requires jwk members → name ∉ ["sha256", "sha512"] → outcome = .error (.unsupportedDigest name)
  missing : ∀ members member, Requires jwk members → name ∈ ["sha256", "sha512"] → FirstMissing jwk members member →
    outcome = .error (.missingClaim member)
  full : ∀ members, Requires jwk members → name ∈ ["sha256", "sha512"] → (∀ member ∈ members, Full jwk member) →
    ScalarTexts jwk → ∃ t, outcome = .ok t

theorem thumbprint_settled (jwk : Record) (name : String) : Settled jwk name (thumbprint (.record jwk) (.text name)) := by
  constructor
  case untyped =>
    intro untyped
    rw [thumbprint, thumbprintOf, members_of_untyped untyped]
    rfl
  case undigested =>
    intro members required unknown
    rw [thumbprint, thumbprintOf, members_of_iff.mpr required, digest_unknown unknown]
    rfl
  case missing =>
    intro members member required known first
    obtain ⟨algorithm, digest⟩ := digest_known known
    have failed := components_missing (required_members required).2.1 first
    rw [thumbprint, thumbprintOf, members_of_iff.mpr required, digest]
    simp only [bind, Except.bind, failed]
  case full =>
    intro members required known full scalars
    obtain ⟨algorithm, digest⟩ := digest_known known
    obtain ⟨parts, made⟩ := components_full full
    have clean := canonical_text_clean required made scalars
    exact ⟨_, thumbprint_of_parts (members_of_iff.mpr required) digest made clean⟩

-- The texts that are hashed are the same when the keys agree, and then only. Keys that agree have one outcome,
-- whichever it is.
theorem thumbprint_canonical (a b : Record) :
    (ScalarTexts a → ScalarTexts b → ∀ digest other t u, thumbprint (.record a) digest = .ok t →
      thumbprint (.record b) other = .ok u →
      ∃ text more, Hashes a digest text t ∧ Hashes b other more u ∧ (text = more ↔ Agree a b)) ∧
    (Agree a b → ∀ digest, thumbprint (.record a) digest = thumbprint (.record b) digest) ∧
    ∀ name, Settled a name (thumbprint (.record a) (.text name)) := by
  refine ⟨?_, agree_thumbprint, thumbprint_settled a⟩
  intro scalars clean digest other t u here there
  obtain ⟨text, hashes⟩ := thumbprint_hashes here
  obtain ⟨more, rehashes⟩ := thumbprint_hashes there
  exact ⟨text, more, hashes, rehashes, text_same_iff scalars clean hashes.hashed rehashes.hashed⟩

theorem thumbprint_canonical_reordered :
    let k : String := "\u00e9\"\\\n"
    let a : Record := [("kty", .text "oct"), ("k", .text k)]
    let b : Record := [("use", .text "sig"), ("k", .text k), ("kty", .text "oct")]
    (ScalarTexts a ∧ ScalarTexts b ∧ Agree a b) ∧
    ∃ t u text, thumbprint (.record a) (.text "sha256") = .ok t ∧ thumbprint (.record b) (.text "sha512") = .ok u ∧
      Hashes a (.text "sha256") text t ∧ Hashes b (.text "sha512") text u := by
  intro k a b
  have oct : Text.Scalars "oct".toList := Text.scalars_plain (by decide)
  have sig : Text.Scalars "sig".toList := Text.scalars_plain (by decide)
  have accented : Text.Scalars k.toList := ⟨[0xe9, 0x22, 0x5c, 0x0a], by decide, by decide⟩
  have first : ScalarTexts a := by
    apply scalar_texts_of_fields
    intro field member s same
    rcases List.mem_pair.mp member with rfl | rfl <;> cases same
    · exact oct
    · exact accented
  have second : ScalarTexts b := by
    apply scalar_texts_of_fields
    intro field member s same
    simp only [b, List.mem_cons, List.not_mem_nil, or_false] at member
    rcases member with rfl | rfl | rfl <;> cases same
    · exact sig
    · exact accented
    · exact oct
  have requires (jwk : Record) (typed : jwk.get "kty" = .text "oct") : Requires jwk ["k", "kty"] := ⟨"oct", typed, rfl⟩
  have full (jwk : Record) (typed : jwk.get "kty" = .text "oct") (kept : jwk.get "k" = .text k) :
      ∀ member ∈ ["k", "kty"], Full jwk member := by
    intro member among
    rcases List.mem_pair.mp among with rfl | rfl
    · exact ⟨k, kept, by decide⟩
    · exact ⟨"oct", typed, by decide⟩
  have agree : Agree a b := by
    refine ⟨rfl, ?_⟩
    rintro members ⟨kty, typed, known⟩ member among
    cases typed
    cases known
    rcases List.mem_pair.mp among with rfl | rfl <;> rfl
  have canonical := thumbprint_canonical a b
  have settled := (thumbprint_canonical b a).2.2 "sha512"
  obtain ⟨t, here⟩ := (canonical.2.2 "sha256").full _ (requires a rfl) (by decide) (full a rfl rfl) first
  obtain ⟨u, there⟩ := settled.full _ (requires b rfl) (by decide) (full b rfl rfl) second
  obtain ⟨text, more, hashes, rehashes, same⟩ := canonical.1 first second _ _ t u here there
  rw [← same.mpr agree] at rehashes
  exact ⟨⟨first, second, agree⟩, t, u, text, here, there, hashes, rehashes⟩

end Jwk
end EbsiDid
