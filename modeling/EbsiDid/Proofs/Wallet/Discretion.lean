import EbsiDid.Proofs.Model.Schema
import EbsiDid.Proofs.Wallet.Material

set_option autoImplicit false

/-!
What can be seen of a private key. Key material is shown and written without it, and a key manager tells of two
private keys in the same words as long as it takes both or neither.
-/
namespace EbsiDid

-- The attribute of a field that is only read does not matter to what is written.
theorem Schema.dump_concealed {kind : Type} (dump : kind → Value → Value) {s : Schema.Shape kind} {a b : Record}
    (same : ∀ f ∈ s.fields, f.loadOnly = false → a.get? f.name = b.get? f.name) : s.dump dump a = s.dump dump b := by
  rw [Schema.dump_entries, Schema.dump_entries]
  refine List.filterMap_congr fun f member => ?_
  cases concealed : f.loadOnly with
  | true => simp [Schema.written, concealed]
  | false => simp [Schema.written, concealed, same f member concealed]

namespace ImportableKey

-- The same key material with another private key.
def holding (k : ImportableKey) (privateKey : Value) : ImportableKey := { k with privateKeyHex := privateKey }

theorem holding_quoted (k : ImportableKey) (privateKey : Value) : (k.holding privateKey).quoted = k.quoted := rfl

theorem holding_serialize (k : ImportableKey) (privateKey : Value) :
    model.serialize (k.holding privateKey) = model.serialize k := by
  have same : ∀ f ∈ shape.nesting.fields, f.loadOnly = false →
      (attributes (k.holding privateKey)).get? f.name = (attributes k).get? f.name := by
    intro f member shown
    simp only [shape, Schema.Shape.nesting, List.map_cons, List.map_nil, List.mem_cons, List.not_mem_nil, or_false] at member
    rcases member with rfl | rfl | rfl | rfl | rfl | rfl
    · rfl
    · rfl
    · cases shown
    · rfl
    · rfl
    · rfl
  have dumped := Schema.dump_concealed Schema.Nesting.dump same
  simp only [Model.serialize, model, dumped]

end ImportableKey

namespace KeyManager

-- What a request shows to an observer: the log, and of an error its family, the family of the error behind it, and
-- its message.
structure Seen where
  log : Log
  kind : Option Kind
  cause : Option Kind
  message : Option String

def seen {α : Type} (r : Reply α) : Seen :=
  match r.result with
  | .ok _ => ⟨r.log, none, none, none⟩
  | .error e => ⟨r.log, some e.kind, e.cause, e.message⟩

def observe (m : KeyManager) : Ask → Seen
  | .importKey key => seen (m.importKey key).1
  | .getKey kid => seen (.silent (m.getKey kid))
  | .deleteKey kid => seen (.silent (m.deleteKey kid).1)
  | .sign kid transaction => seen (.silent (m.sign kid transaction).1)

def watch (m : KeyManager) : List Ask → List Seen
  | [] => []
  | ask :: rest => m.observe ask :: (m.serve ask).2.watch rest

theorem observe_import (m : KeyManager) (key : ImportableKey) : m.observe (.importKey key) = seen (m.importKey key).1 := rfl

theorem serve_import (m : KeyManager) (key : ImportableKey) : (m.serve (.importKey key)).2 = (m.importKey key).2 := rfl

-- The same request but for a private key. Both private keys are texts under one kid that counts, and both are
-- taken or neither.
inductive Ask.Alike : Ask → Ask → Prop where
  | importKey {key : ImportableKey} {text other : String} : key.kid.truthy = true → key.kid.hashable = true →
      (Importable (key.holding (.text text)) ↔ Importable (key.holding (.text other))) →
      Ask.Alike (.importKey (key.holding (.text text))) (.importKey (key.holding (.text other)))
  | getKey (kid : Value) : Ask.Alike (.getKey kid) (.getKey kid)
  | deleteKey (kid : Value) : Ask.Alike (.deleteKey kid) (.deleteKey kid)

section Twins

variable {m n : KeyManager} {key : ImportableKey}

-- A text that is refused under a kid that fits is no private key.
theorem import_key_unread {given : String} (fits : KidFits key.kid) (refused : ¬ Importable (key.holding (.text given))) :
    m.importKey (key.holding (.text given)) = (.silent (.error (.privateKeyInvalid key.type)), m) := by
  cases derived : publicKeyOf? (Hex.stripMark given) key.type with
  | none => simp only [importKey, ImportableKey.holding, derived]
  | some publicKey =>
      have derives : Derives (key.holding (.text given)) (describe key publicKey) (Hex.stripMark given) :=
        ⟨⟨given, rfl, rfl⟩, ⟨publicKey, derived, rfl⟩, (described_hashable key publicKey).mpr fits⟩
      exact absurd ((derives_iff _).mp ⟨_, _, derives⟩) refused

theorem explicit_kid {k : KeyDescriptor} {privateKey : Value} {text : String} (counts : key.kid.truthy = true)
    (derives : Derives (key.holding privateKey) k text) : k.kid = key.kid ∧ k.type = key.type := by
  obtain ⟨publicKey, _, rfl⟩ := derives.descriptor
  exact ⟨if_pos counts, rfl⟩

theorem import_alike {text other : String} (counts : key.kid.truthy = true) (scalar : key.kid.hashable = true)
    (both : Importable (key.holding (.text text)) ↔ Importable (key.holding (.text other)))
    (kids : m.keys.keys = n.keys.keys) :
    seen (m.importKey (key.holding (.text text))).1 = seen (n.importKey (key.holding (.text other))).1 ∧
      (m.importKey (key.holding (.text text))).2.keys.keys = (n.importKey (key.holding (.text other))).2.keys.keys := by
  by_cases taken : Importable (key.holding (.text text))
  · obtain ⟨k, stored, derives⟩ := (derives_iff _).mpr taken
    obtain ⟨k', stored', derives'⟩ := (derives_iff _).mpr (both.mp taken)
    obtain ⟨kid, type⟩ := explicit_kid counts derives
    obtain ⟨kid', type'⟩ := explicit_kid counts derives'
    rw [import_key_derived derives, import_key_derived derives']
    have line : importedLine k = importedLine k' := by
      rw [importedLine, importedLine, kid, kid', type, type']
    refine ⟨by rw [line]; rfl, ?_⟩
    change (m.keys.put k.kid k).keys = (n.keys.put k'.kid k').keys
    rw [kid, kid']
    exact Entries.keys_put_alike kids key.kid k k'
  · have fits : KidFits key.kid := fun _ => scalar
    rw [import_key_unread fits taken, import_key_unread fits fun takenToo => taken (both.mpr takenToo)]
    exact ⟨rfl, kids⟩

-- One step: requests that are alike show the same, and leave the same kids.
theorem observe_alike {ask other : Ask} (alike : ask.Alike other) (kids : m.keys.keys = n.keys.keys) :
    m.observe ask = n.observe other ∧ (m.serve ask).2.keys.keys = (n.serve other).2.keys.keys := by
  cases alike with
  | importKey counts scalar both =>
      rw [observe_import, observe_import, serve_import, serve_import]
      exact import_alike counts scalar both kids
  | getKey kid =>
      refine ⟨?_, kids⟩
      have has := Entries.has_of_keys kids kid
      unfold Entries.has at has
      simp only [observe, getKey]
      by_cases scalar : kid.hashable = true
      · rw [if_pos scalar, if_pos scalar]
        cases held : m.keys.get? kid <;> cases heldToo : n.keys.get? kid <;> simp [held, heldToo] at has <;> rfl
      · rw [if_neg scalar, if_neg scalar]
  | deleteKey kid =>
      have has := Entries.has_of_keys kids kid
      have none : m.keys.isEmpty = n.keys.isEmpty := by
        have counts := congrArg List.isEmpty kids
        simpa [Entries.keys] using counts
      simp only [observe, serve, deleteKey, has, none]
      split
      · exact ⟨rfl, Entries.keys_erase_alike kids kid⟩
      · exact ⟨rfl, kids⟩

theorem watch_alike {asks others : List Ask} (alike : List.Forall₂ Ask.Alike asks others)
    (kids : m.keys.keys = n.keys.keys) : m.watch asks = n.watch others := by
  induction alike generalizing m n with
  | nil => rfl
  | cons first _ ih =>
      obtain ⟨same, kidsAfter⟩ := observe_alike first kids
      rw [watch, watch, same, ih kidsAfter]

end Twins

end KeyManager

open KeyManager in
-- A private key is not to be seen: not in what is shown or written of key material, and not in the logs and
-- errors of a manager that takes and gives up keys.
theorem private_keys_concealed :
    (∀ (k : ImportableKey) (privateKey : Value), (k.holding privateKey).quoted = k.quoted ∧
      ImportableKey.model.serialize (k.holding privateKey) = ImportableKey.model.serialize k ∧
      ImportableKey.model.toJson (k.holding privateKey) = ImportableKey.model.toJson k) ∧
    ∀ (m : KeyManager) (asks others : List Ask), List.Forall₂ Ask.Alike asks others →
      m.watch asks = m.watch others := by
  refine ⟨?_, fun m asks others alike => watch_alike alike rfl⟩
  intro k privateKey
  have same := ImportableKey.holding_serialize k privateKey
  refine ⟨ImportableKey.holding_quoted k privateKey, same, ?_⟩
  rw [Model.toJson, Model.toJson, same]

open KeyManager in
-- Two private keys that are taken, and two texts that are none.
theorem private_keys_concealed_both_ways :
    let key : ImportableKey :=
      ⟨.text "local", .secp256k1, .null, .text "k1", PurposeSet.defaultFor .secp256k1, .bool true⟩
    let importing (bytes : Bytes) : Ask := .importKey (key.holding (.text (Hex.encode bytes)))
    let asks := [importing [1], importing [0], .getKey (.text "k1"), .deleteKey (.text "k1"), .getKey (.text "k1")]
    let others := [importing [2], importing [], .getKey (.text "k1"), .deleteKey (.text "k1"), .getKey (.text "k1")]
    List.Forall₂ Ask.Alike asks others ∧ empty.watch asks = empty.watch others := by
  intro key importing asks others
  have taken (bytes : Bytes) : Importable (key.holding (.text (Hex.encode bytes))) ↔
      InRange .secp256k1 (Encoding.toNat bytes) := bytes_importable_iff rfl fun _ => rfl
  have one : InRange .secp256k1 (Encoding.toNat [1]) := by decide +kernel
  have two : InRange .secp256k1 (Encoding.toNat [2]) := by decide +kernel
  have zero : ¬ InRange .secp256k1 (Encoding.toNat [0]) := by decide +kernel
  have nothing : ¬ InRange .secp256k1 (Encoding.toNat []) := by decide +kernel
  have alike : List.Forall₂ Ask.Alike asks others := by
    refine .cons (.importKey rfl rfl ?_) (.cons (.importKey rfl rfl ?_) (.cons (.getKey _) (.cons (.deleteKey _)
      (.cons (.getKey _) .nil))))
    · rw [taken, taken]
      exact iff_of_true one two
    · rw [taken, taken]
      exact iff_of_false zero nothing
  exact ⟨alike, private_keys_concealed.2 empty asks others alike⟩

end EbsiDid
