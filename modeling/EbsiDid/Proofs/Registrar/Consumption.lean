import EbsiDid.Proofs.Registrar.Addressing
import EbsiDid.Proofs.Registrar.Custody
import EbsiDid.Proofs.Registrar.Generation

set_option autoImplicit false

/-!
What is taken of the random material, and for what. Bytes are handed out from the front and are gone then, so that no two
parts of a new identifier are made of the same ones.
-/
namespace EbsiDid

/-! ### Requests for bytes -/

namespace RandomStream

-- The stream with other bytes in front of it.
def behind (r : RandomStream) (chunk : Bytes) : RandomStream := { r with bytes := chunk ++ r.bytes }

theorem behind_behind (r : RandomStream) (first rest : Bytes) : (r.behind rest).behind first = r.behind (first ++ rest) := by
  simp only [behind, List.append_assoc]

theorem skip_behind (r : RandomStream) (chunk : Bytes) : (r.behind chunk).skip chunk.length = r := by
  simp only [skip, behind, List.drop_left]

theorem take_bytes_natural (r : RandomStream) (n : Nat) : r.takeBytes (.int n) =
    if n ≤ r.bytes.length then (.ok (r.bytes.take n), r.skip n) else (.error .streamExhausted, r) := by
  split
  · rename_i enough
    exact take_bytes r enough
  · rename_i short
    have exhausted : grant r.bytes.length (.int n) = .error .streamExhausted := by
      simp [grant, Value.numeric?, Value.Numeric.less_natural, Nat.lt_of_not_le short]
    rw [takeBytes, exhausted]

theorem taken_behind {r : RandomStream} {length : Value} {chunk : Bytes} (taken : (r.takeBytes length).1 = .ok chunk) :
    r = (r.takeBytes length).2.behind chunk := by
  have whole := takeBytes_append r length chunk taken
  have ids : (r.takeBytes length).2.rpcIds = r.rpcIds := by
    unfold takeBytes
    split <;> rfl
  rw [behind, whole, ids]

theorem taken_length {r : RandomStream} {n : Nat} {chunk : Bytes} (taken : (r.takeBytes (.int n)).1 = .ok chunk) :
    chunk.length = n := by
  rw [take_bytes_natural] at taken
  split at taken
  · rename_i enough
    cases taken
    exact List.length_take_of_le enough
  · cases taken

-- Requests one after another, with what each of them gets.
def takeAll (r : RandomStream) : List Value → List (Except Error Bytes) × RandomStream
  | [] => ([], r)
  | length :: rest =>
      let (taken, after) := r.takeBytes length
      let (more, last) := after.takeAll rest
      (taken :: more, last)

-- What was handed out, end to end.
def handedOut (taken : List (Except Error Bytes)) : Bytes := taken.flatMap fun t => t.toOption.getD []

theorem take_all_behind (r : RandomStream) (lengths : List Value) :
    r = (r.takeAll lengths).2.behind (handedOut (r.takeAll lengths).1) := by
  induction lengths generalizing r with
  | nil => rfl
  | cons length rest ih =>
      simp only [takeAll, handedOut, List.flatMap_cons]
      rw [← behind_behind, ← handedOut, ← ih]
      cases taken : (r.takeBytes length).1 with
      | error e => exact (takeBytes_error r length e taken).symm
      | ok chunk => exact taken_behind taken

end RandomStream

/-! ### Actions and the bytes they take -/

namespace Act

variable {τ α β : Type}

-- With a value, an action has taken bytes from the front of the stream that fit the value.
def Takes (x : Act τ α) (P : α → Bytes → Prop) : Prop :=
  ∀ d a, (x d).result = .ok a → ∃ chunk, P a chunk ∧ d.random = (x d).desk.random.behind chunk

theorem takes_pure (a : α) : Takes (pure a : Act τ α) fun b chunk => b = a ∧ chunk = [] := by
  intro d b made
  cases made
  exact ⟨[], ⟨rfl, rfl⟩, rfl⟩

theorem takes_of_except (r : Except Error α) : Takes (ofExcept r : Act τ α) fun a chunk => r = .ok a ∧ chunk = [] :=
  fun _ _ made => ⟨[], ⟨made, rfl⟩, rfl⟩

theorem takes_draw {f : RandomStream → Except Error α × RandomStream} {P : α → Bytes → Prop}
    (drawn : ∀ r a, (f r).1 = .ok a → ∃ chunk, P a chunk ∧ r = (f r).2.behind chunk) : Takes (draw f : Act τ α) P :=
  fun d a made => drawn d.random a made

theorem takes_bind {x : Act τ α} {f : α → Act τ β} {P : α → Bytes → Prop} {Q : β → Bytes → Prop} (first : Takes x P)
    (rest : ∀ a chunk, P a chunk → Takes (f a) fun b more => Q b (chunk ++ more)) : Takes (x >>= f) Q := by
  intro d b made
  obtain ⟨a, outcome, made⟩ := bind_ok_inv made
  obtain ⟨chunk, taken, before⟩ := first d a outcome
  obtain ⟨more, takenToo, between⟩ := rest a chunk taken (x d).desk b made
  refine ⟨chunk ++ more, takenToo, ?_⟩
  rw [bind_of_ok outcome, ← RandomStream.behind_behind, ← between]
  exact before

theorem takes_weaken {x : Act τ α} {P Q : α → Bytes → Prop} (takes : Takes x P) (weaker : ∀ a chunk, P a chunk → Q a chunk) :
    Takes x Q := by
  intro d a made
  obtain ⟨chunk, taken, before⟩ := takes d a made
  exact ⟨chunk, weaker a chunk taken, before⟩

end Act

/-! ### The parts of a new identifier -/

-- How many bytes a private key takes. No length, like none at all, means thirty-two.
def DidSpec.keyBytes (length : Option Nat) : Nat := lengthOr 32 length

theorem DidSpec.key_length {spec : DidSpec} {length : Option Nat} (sized : spec.privateKeyLength = lengthOf length) :
    spec.keyLength = .int (keyBytes length) := by
  rw [keyLength, sized]
  exact length_or_else 32 length

namespace EbsiRegistrar

variable {τ : Type}

-- The id that the options give, for which nothing is drawn, or the one of the version and of `n` bytes.
inductive IdDrawn (o : Record) (version : Value) (n : Nat) : Bytes → String → Prop where
  | given : (o.get "method_specific_id").truthy = true → IdDrawn o version n [] (o.get "method_specific_id").display
  | fresh {front drawn : Bytes} : (o.get "method_specific_id").truthy = false → versionBytes version = .ok front →
      drawn.length = n → IdDrawn o version n drawn (multibaseMark ++ Base58.encode (front ++ drawn))

-- The private key that the options of a key give, for which nothing is drawn, or the one of `n` bytes.
inductive KeyDrawn (o : Record) (n : Nat) : Bytes → String → Prop where
  | given {bytes : Bytes} : (o.get "private_key_hex").truthy = true →
      suppliedKey (o.get "private_key_hex") = .ok (some bytes) → bytes.length = n → KeyDrawn o n [] (Hex.encode bytes)
  | fresh {drawn : Bytes} : (o.get "private_key_hex").truthy = false → drawn.length = n →
      KeyDrawn o n drawn (Hex.encode drawn)

-- The bytes that an id or a key of `n` bytes takes from the stream.
def idShare (o : Record) (n : Nat) : Nat := if (o.get "method_specific_id").truthy then 0 else n

def keyShare (o : Record) (n : Nat) : Nat := if (o.get "private_key_hex").truthy then 0 else n

theorem IdDrawn.length {o : Record} {version : Value} {n : Nat} {drawn : Bytes} {id : String}
    (made : IdDrawn o version n drawn id) : drawn.length = idShare o n := by
  cases made with
  | given present => rw [idShare, if_pos present, List.length_nil]
  | fresh absent _ sized => rw [idShare, absent, sized]; rfl

theorem KeyDrawn.length {o : Record} {n : Nat} {drawn : Bytes} {text : String} (made : KeyDrawn o n drawn text) :
    drawn.length = keyShare o n := by
  cases made with
  | given present _ _ => rw [keyShare, if_pos present, List.length_nil]
  | fresh absent sized => rw [keyShare, absent, sized]; rfl

theorem KeyDrawn.unmarked {o : Record} {n : Nat} {drawn : Bytes} {text : String} (made : KeyDrawn o n drawn text) :
    Hex.stripMark text = text := by
  cases made <;> exact Hex.strip_encode _

theorem choose_id_takes (o : Record) {spec : DidSpec} {length : Option Nat} (sized : spec.didLength = DidSpec.lengthOf length) :
    Act.Takes (chooseId o spec : Act τ String) fun id drawn => IdDrawn o spec.version (DidSpec.idBytes length) drawn id := by
  unfold chooseId
  split
  · rename_i present
    refine Act.takes_weaken (Act.takes_pure _) ?_
    rintro _ _ ⟨rfl, rfl⟩
    exact .given present
  · rename_i absent
    refine Act.takes_draw fun r id made => ?_
    obtain ⟨front, drawn, versioned, taken, rfl, left⟩ := drawn_id_encodes made
    rw [DidSpec.id_length sized] at taken left
    rw [left]
    exact ⟨drawn, .fresh (Bool.eq_false_of_not_eq_true absent) versioned (RandomStream.taken_length taken),
      RandomStream.taken_behind taken⟩

theorem supplied_present {v : Value} {supplied : Option Bytes} (taken : suppliedKey v = .ok supplied) :
    v.truthy = supplied.isSome := by
  unfold suppliedKey at taken
  split at taken
  · rename_i present
    split at taken
    · split at taken <;> cases taken
      exact present
    · cases taken
  · rename_i absent
    cases taken
    exact Bool.eq_false_of_not_eq_true absent

theorem length_alike {m n : Nat} (same : (Value.int m).alike (.int n) = true) : m = n := by
  rw [Value.alike_handle _ _ rfl] at same
  simpa [Value.handle, Value.numeric?, Value.Numeric.settled] using same

theorem private_key_takes {o : Record} {n : Nat} {supplied : Option Bytes}
    (asked : suppliedKey (o.get "private_key_hex") = .ok supplied) :
    Act.Takes (Act.draw fun r => r.privateKeyHex (.int n) supplied : Act τ String) fun text drawn => KeyDrawn o n drawn text := by
  refine Act.takes_draw fun r text made => ?_
  cases supplied with
  | some bytes =>
      simp only [RandomStream.privateKeyHex] at made ⊢
      split at made
      · rename_i sized
        cases made
        rw [if_pos sized]
        exact ⟨[], .given (supplied_present asked) asked (length_alike sized).symm, rfl⟩
      · cases made
  | none =>
      simp only [RandomStream.privateKeyHex] at made ⊢
      cases taken : (r.takeBytes (.int n)).1 with
      | error e =>
          rw [taken] at made
          cases made
      | ok drawn =>
          rw [taken] at made
          cases made
          exact ⟨drawn, .fresh (supplied_present asked) (RandomStream.taken_length taken), RandomStream.taken_behind taken⟩

-- The material of one key, with the bytes that were drawn for it.
def MaterialDrawn (keyOptions : Value) (n : Nat) (k : ImportableKey) (drawn : Bytes) : Prop :=
  ∃ o text, optionsOf keyOptions = .ok o ∧ k.privateKeyHex = .text text ∧ KeyDrawn o n drawn text

theorem importable_key_takes (keyOptions : Value) (type : KeyType) (kms : Value) (n : Nat) (isController : Bool) :
    Act.Takes (importableKey keyOptions type kms (.int n) isController : Act τ ImportableKey) (MaterialDrawn keyOptions n) := by
  unfold importableKey
  refine Act.takes_bind (Act.takes_of_except _) ?_
  rintro o _ ⟨given, rfl⟩
  refine Act.takes_bind (Act.takes_of_except _) ?_
  rintro type _ ⟨_, rfl⟩
  refine Act.takes_bind (Act.takes_of_except _) ?_
  rintro supplied _ ⟨asked, rfl⟩
  refine Act.takes_bind (private_key_takes asked) ?_
  intro text drawn made
  refine Act.takes_bind (Act.takes_of_except _) ?_
  rintro purposes _ ⟨_, rfl⟩
  refine Act.takes_weaken (Act.takes_pure _) ?_
  rintro _ _ ⟨rfl, rfl⟩
  simp only [List.nil_append, List.append_nil]
  exact ⟨o, text, given, rfl, made⟩

-- The three parts of a plan, with the bytes of each.
structure PlanDrawn (o : Record) (spec : DidSpec) (length keyLength : Option Nat) (plan : Plan)
    (forId forController forSecond : Bytes) : Prop where
  id : ∃ id, IdDrawn o spec.version (DidSpec.idBytes length) forId id ∧ plan.did = .text (spec.method.display ++ id)
  controller : MaterialDrawn (o.get "secp256k1_key") (DidSpec.keyBytes keyLength) plan.controller forController
  second : MaterialDrawn (o.get "secp256r1_key") (DidSpec.keyBytes keyLength) plan.second forSecond

theorem plan_takes (reg : EbsiRegistrar) (kms : Value) {choice : SpecChoice} {o : Record} {spec : DidSpec}
    {length keyLength : Option Nat} (described : specOf choice o = some spec) (sized : spec.didLength = DidSpec.lengthOf length)
    (keySized : spec.privateKeyLength = DidSpec.lengthOf keyLength) :
    Act.Takes (reg.plan kms choice o : Act τ Plan) fun plan drawn => ∃ forId forController forSecond,
      drawn = forId ++ forController ++ forSecond ∧ PlanDrawn o spec length keyLength plan forId forController forSecond := by
  unfold plan
  refine Act.takes_bind (Act.takes_of_except _) ?_
  rintro found _ ⟨specified, rfl⟩
  obtain ⟨_, _, _, same⟩ := spec_taken specified
  rw [described] at same
  cases same
  rw [DidSpec.key_length keySized]
  refine Act.takes_bind (choose_id_takes o sized) ?_
  intro id forId named
  refine Act.takes_bind (importable_key_takes _ _ _ _ _) ?_
  intro controller forController first
  refine Act.takes_bind (importable_key_takes _ _ _ _ _) ?_
  intro second forSecond last
  refine Act.takes_weaken (Act.takes_pure _) ?_
  rintro _ _ ⟨rfl, rfl⟩
  refine ⟨forId, forController, forSecond, by simp, ⟨id, named, rfl⟩, first, last⟩

/-! ### A creation as a whole -/

-- A key of a new identifier, with the text of its private key and the bytes that were drawn for it.
structure KeyMade (o : Record) (n : Nat) (k : KeyDescriptor) (text : String) (drawn : Bytes) : Prop where
  drawn : KeyDrawn o n drawn text
  publicKey : ∃ publicKey, KeyManager.publicKeyOf? text k.type = some publicKey ∧ k.publicKeyHex = .text publicKey

theorem key_made {keyOptions : Value} {n : Nat} {key : ImportableKey} {k : KeyDescriptor} {text : String} {drawn : Bytes}
    (material : MaterialDrawn keyOptions n key drawn) (derives : KeyManager.Derives key k text) :
    ∃ o, optionsOf keyOptions = .ok o ∧ KeyMade o n k text drawn := by
  obtain ⟨o, digits, given, imported, made⟩ := material
  obtain ⟨found, same, rfl⟩ := derives.material
  rw [imported, Value.text.injEq] at same
  subst same
  obtain ⟨publicKey, derived, rfl⟩ := derives.descriptor
  rw [made.unmarked] at derived ⊢
  exact ⟨o, given, made, publicKey, derived, rfl⟩

-- What the parts of a new identifier are made of, and what is left. Bytes stand for each part: none if it is given.
structure Consumed (o controllerOptions secondOptions : Record) (spec : DidSpec) (length keyLength : Option Nat)
    (before after : Desk τ) (i : Identifier) (forId forController forSecond : Bytes) : Prop where
  segments : before.random = after.random.behind (forId ++ forController ++ forSecond)
  left : after.random = before.random.skip (idShare o (DidSpec.idBytes length) +
    keyShare controllerOptions (DidSpec.keyBytes keyLength) + keyShare secondOptions (DidSpec.keyBytes keyLength))
  id : ∃ id, IdDrawn o spec.version (DidSpec.idBytes length) forId id ∧ i.did = .text (spec.method.display ++ id)
  keys : ∃ controller second text secondText, i.keys = [controller, second] ∧
    KeyMade controllerOptions (DidSpec.keyBytes keyLength) controller text forController ∧
    KeyMade secondOptions (DidSpec.keyBytes keyLength) second secondText forSecond ∧
    after.keys = (before.keys.store text controller).store secondText second

theorem created_consumed {reg : EbsiRegistrar} {p : Partners τ} {kms nickname : Value} {choice : SpecChoice} {options : Value}
    {d : Desk τ} {o : Record} {spec : DidSpec} {length keyLength : Option Nat} {i : Identifier}
    (given : optionsOf options = .ok o) (offline : executes o = false) (described : specOf choice o = some spec)
    (sized : spec.didLength = DidSpec.lengthOf length) (keySized : spec.privateKeyLength = DidSpec.lengthOf keyLength)
    (made : (reg.createIdentifier p kms nickname choice options d).result = .ok i) :
    ∃ controllerOptions secondOptions, optionsOf (o.get "secp256k1_key") = .ok controllerOptions ∧
      optionsOf (o.get "secp256r1_key") = .ok secondOptions ∧ ∃ forId forController forSecond,
      Consumed o controllerOptions secondOptions spec length keyLength d
        (reg.createIdentifier p kms nickname choice options d).desk i forId forController forSecond := by
  obtain ⟨o', plan, controller, second, text, secondText, prepared, rfl⟩ := created_prepared made
  have same := given.symm.trans prepared.options
  cases same
  have finished := create_finished reg p kms nickname choice options d prepared
  obtain ⟨_, _, still⟩ := finished.unwritten offline
  obtain ⟨_, ⟨forId, forController, forSecond, rfl, drawn⟩, before⟩ :=
    plan_takes reg kms described sized keySized d plan prepared.planned
  obtain ⟨controllerOptions, controllerGiven, first⟩ := key_made drawn.controller prepared.derivesController
  obtain ⟨secondOptions, secondGiven, last⟩ := key_made drawn.second prepared.derivesSecond
  obtain ⟨id, named, did⟩ := drawn.id
  refine ⟨controllerOptions, secondOptions, controllerGiven, secondGiven, forId, forController, forSecond, ?_⟩
  rw [still]
  refine ⟨before, ?_, ⟨id, named, did⟩, controller, second, text, secondText, rfl, first, last, rfl⟩
  have count : (forId ++ forController ++ forSecond).length = idShare o (DidSpec.idBytes length) +
      keyShare controllerOptions (DidSpec.keyBytes keyLength) + keyShare secondOptions (DidSpec.keyBytes keyLength) := by
    rw [List.length_append, List.length_append, named.length, first.drawn.length, last.drawn.length]
  rw [before, ← count]
  exact (RandomStream.skip_behind _ _).symm

-- Whatever is asked for, what is handed out and what is left are the stream. Of that, a creation takes a segment for each
-- part that is not given, first for the id, then for the controller and last for the second key, and no more.
theorem random_material_once (reg : EbsiRegistrar) (p : Partners τ) (kms nickname : Value) (choice : SpecChoice)
    (options : Value) (d : Desk τ) :
    (∀ (r : RandomStream) (lengths : List Value),
      r = (r.takeAll lengths).2.behind (RandomStream.handedOut (r.takeAll lengths).1)) ∧
    (∀ (r : RandomStream) (length : Value) (e : Error), (r.takeBytes length).1 = .error e → (r.takeBytes length).2 = r) ∧
    (∀ (r : RandomStream) (n : Nat), r.takeBytes (.int n) =
      if n ≤ r.bytes.length then (.ok (r.bytes.take n), r.skip n) else (.error .streamExhausted, r)) ∧
    ∀ o spec length keyLength i, optionsOf options = .ok o → executes o = false → specOf choice o = some spec →
      spec.didLength = DidSpec.lengthOf length → spec.privateKeyLength = DidSpec.lengthOf keyLength →
      (reg.createIdentifier p kms nickname choice options d).result = .ok i →
      ∃ controllerOptions secondOptions, optionsOf (o.get "secp256k1_key") = .ok controllerOptions ∧
        optionsOf (o.get "secp256r1_key") = .ok secondOptions ∧ ∃ forId forController forSecond,
        Consumed o controllerOptions secondOptions spec length keyLength d
          (reg.createIdentifier p kms nickname choice options d).desk i forId forController forSecond :=
  ⟨RandomStream.take_all_behind, RandomStream.takeBytes_error, RandomStream.take_bytes_natural,
    fun _ _ _ _ _ given offline described sized keySized made =>
      created_consumed given offline described sized keySized made⟩

-- With an id given, the first bytes are those of the controller's key, and the byte after both keys is left.
theorem random_material_once_given_id :
    let reg : EbsiRegistrar := ⟨.null, []⟩
    let p : Partners (List Rehearsal.Prepared) := ⟨LedgerSession.scripted, .keyManager, .int 0⟩
    let o : Record := [("method_specific_id", .text "z1")]
    let d : Desk (List Rehearsal.Prepared) := ⟨⟨Sec1.coordinate 1 ++ Sec1.coordinate 1 ++ [7], []⟩, KeyManager.empty, []⟩
    let ended := reg.createIdentifier p (.text "local") .null .usual (.record o) d
    ended.desk.random = ⟨[7], []⟩ ∧ ∃ i, ended.result = .ok i ∧ ∃ forId forController forSecond,
      Consumed o [] [] DidSpec.v1 (some 16) (some 32) d ended.desk i forId forController forSecond := by
  intro reg p o d ended
  have unattended : Unattended reg (.text "local") .usual o := ⟨rfl, rfl, rfl, rfl, rfl⟩
  have given : optionsOf (.record o) = .ok o := rfl
  have enough : idTaken o + 64 ≤ d.random.bytes.length := by decide +kernel
  have generated := create_generated p .null given unattended enough
  have valid : KeyManager.InRange .secp256k1 (Encoding.toNat (controllerDraw d.random o)) ∧
      KeyManager.InRange .secp256r1 (Encoding.toNat (secondDraw d.random o)) := by decide +kernel
  obtain ⟨i, made⟩ := generated.returns.mpr valid
  obtain ⟨_, _, _, drawn⟩ := random_material_once reg p (.text "local") .null .usual (.record o) d
  obtain ⟨_, _, ⟨⟩, ⟨⟩, forId, forController, forSecond, consumed⟩ :=
    drawn o DidSpec.v1 (some 16) (some 32) i given rfl rfl rfl rfl made
  have rest : d.random.bytes.drop (0 + 32 + 32) = [7] := by decide +kernel
  exact ⟨consumed.left.trans (congrArg (RandomStream.mk · []) rest), i, made, forId, forController, forSecond, consumed⟩

end EbsiRegistrar
end EbsiDid
