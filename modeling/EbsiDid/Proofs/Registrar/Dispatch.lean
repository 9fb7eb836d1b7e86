import EbsiDid.Proofs.Registrar.Addressing
import EbsiDid.Registrar.Perform

set_option autoImplicit false

/-!
Operations on identifiers and the registrars they go to. A directory has, for each method, the registrar that was
registered last; an operation reads the method off the DID and is handed to that registrar as it is, or to none.
-/
namespace EbsiDid

/-! ### The pattern of a DID -/

namespace Did

-- Segments with a colon after each, and one that is not empty.
def InSegments (chars : List Char) : Prop :=
  ∃ (segments : List (List Char)) (last : List Char), chars = segments.flatMap (· ++ [':']) ++ last ∧
    (∀ segment ∈ segments, ∀ c ∈ segment, isIdChar c = true) ∧ last ≠ [] ∧ ∀ c ∈ last, isIdChar c = true

-- `did:`, a method, a colon and an id in segments, which one newline may follow.
def Matches (text method : String) : Prop :=
  method ≠ "" ∧ (∀ c ∈ method.toList, isMethodChar c = true) ∧ ∃ rest, text = "did:" ++ method ++ ":" ++ rest ∧
    ∃ id, InSegments id ∧ (rest.toList = id ∨ rest.toList = id ++ ['\n'])

-- The text between the first colon and the second.
def betweenColons (text : String) : String :=
  String.ofList (((text.toList.dropWhile (· ≠ ':')).drop 1).takeWhile (· ≠ ':'))

theorem is_id_iff {chars : List Char} : isId chars = true ↔
    (∀ c ∈ chars, isIdChar c = true ∨ c = ':') ∧ ∃ c, chars.getLast? = some c ∧ isIdChar c = true := by
  rw [isId, Bool.and_eq_true, List.all_eq_true]
  simp only [Bool.or_eq_true, decide_eq_true_eq]
  refine and_congr Iff.rfl ?_
  cases chars.getLast? <;> simp

theorem is_id_cons {c : Char} {rest : List Char} (nonempty : rest ≠ []) :
    isId (c :: rest) = true ↔ (isIdChar c = true ∨ c = ':') ∧ isId rest = true := by
  rw [is_id_iff, is_id_iff, List.forall_mem_cons, List.getLast?_cons_of_ne_nil nonempty, and_assoc]

theorem segments_single {c : Char} (plain : isIdChar c = true) : InSegments [c] :=
  ⟨[], [c], rfl, nofun, List.cons_ne_nil c [], List.forall_mem_singleton.mpr plain⟩

-- A character is one more of the first segment, which may be the last.
theorem segments_char {c : Char} {rest : List Char} (char : isIdChar c = true) (spelt : InSegments rest) :
    InSegments (c :: rest) := by
  obtain ⟨segments, last, rfl, plain, nonempty, lastPlain⟩ := spelt
  cases segments with
  | nil => exact ⟨[], c :: last, rfl, nofun, List.cons_ne_nil c last, List.forall_mem_cons.mpr ⟨char, lastPlain⟩⟩
  | cons first more =>
      obtain ⟨firstPlain, morePlain⟩ := List.forall_mem_cons.mp plain
      have longer : ∀ d ∈ c :: first, isIdChar d = true := List.forall_mem_cons.mpr ⟨char, firstPlain⟩
      exact ⟨(c :: first) :: more, last, rfl, List.forall_mem_cons.mpr ⟨longer, morePlain⟩, nonempty, lastPlain⟩

theorem segments_colon {rest : List Char} (spelt : InSegments rest) : InSegments (':' :: rest) := by
  obtain ⟨segments, last, rfl, plain, nonempty, lastPlain⟩ := spelt
  exact ⟨[] :: segments, last, rfl, List.forall_mem_cons.mpr ⟨nofun, plain⟩, nonempty, lastPlain⟩

theorem segments_of_id {chars : List Char} (fits : isId chars = true) : InSegments chars := by
  induction chars with
  | nil => cases fits
  | cons c rest ih =>
      by_cases empty : rest = []
      · subst empty
        obtain ⟨_, last, found, plain⟩ := is_id_iff.mp fits
        cases found
        exact segments_single plain
      · obtain ⟨char | rfl, others⟩ := (is_id_cons empty).mp fits
        · exact segments_char char (ih others)
        · exact segments_colon (ih others)

theorem id_of_segments {chars : List Char} (spelt : InSegments chars) : isId chars = true := by
  obtain ⟨segments, last, rfl, plain, nonempty, lastPlain⟩ := spelt
  rw [is_id_iff]
  constructor
  · intro c member
    rcases List.mem_append.mp member with inside | inside
    · obtain ⟨segment, listed, inside⟩ := List.mem_flatMap.mp inside
      rcases List.mem_append.mp inside with inside | colon
      · exact .inl (plain segment listed c inside)
      · exact .inr (List.mem_singleton.mp colon)
    · exact .inl (lastPlain c inside)
  · refine ⟨last.getLast nonempty, ?_, lastPlain _ (List.getLast_mem nonempty)⟩
    rw [List.getLast?_append_of_ne_nil _ nonempty, List.getLast?_eq_some_getLast nonempty]

theorem drop_newline_iff {chars id : List Char} (fits : isId id = true) :
    dropNewline chars = id ↔ chars = id ∨ chars = id ++ ['\n'] := by
  obtain ⟨_, last, found, plain⟩ := is_id_iff.mp fits
  have kept : id.getLast? ≠ some '\n' := by
    intro newline
    rw [newline] at found
    cases found
    cases plain
  unfold dropNewline
  constructor
  · split
    · rename_i newline
      rintro rfl
      exact .inr (List.dropLast_append_getLast? '\n' newline).symm
    · exact .inl
  · rintro (rfl | rfl)
    · rw [if_neg kept]
    · rw [List.getLast?_concat, if_pos rfl, List.dropLast_concat]

theorem parse_of_matches {text method : String} (matched : Matches text method) :
    ∃ did, parse? text = some did ∧ did.method = method := by
  obtain ⟨named, plain, rest, written, id, spelt, ends⟩ := matched
  have fits := id_of_segments spelt
  have dropped := (drop_newline_iff fits).mpr ends
  have spells : Spells text ⟨method, String.ofList id⟩ := by
    refine ⟨named, plain, rest, written, ?_, ?_⟩
    · rwa [dropped]
    · rw [dropped]
  exact ⟨_, parse_of_spells spells, rfl⟩

theorem matches_of_parse {text : String} {did : Did} (read : parse? text = some did) : Matches text did.method := by
  obtain ⟨named, plain, rest, written, fits, _⟩ := spells_of_parse read
  exact ⟨named, plain, rest, written, _, segments_of_id fits, (drop_newline_iff fits).mp rfl⟩

theorem method_char_no_colon {c : Char} (plain : isMethodChar c = true) : c ≠ ':' := by
  rintro rfl
  cases plain

theorem between_colons {text method : String} (matched : Matches text method) : betweenColons text = method := by
  obtain ⟨_, plain, rest, rfl, _⟩ := matched
  have inside : ∀ c ∈ method.toList, decide (c ≠ ':') = true := fun c member =>
    decide_eq_true (method_char_no_colon (plain c member))
  have ahead : (("did:" ++ method ++ ":" ++ rest).toList.dropWhile (· ≠ ':')).drop 1 = method.toList ++ ':' :: rest.toList := by
    rw [spelt_chars]
    rfl
  rw [betweenColons, ahead, List.takeWhile_append_of_pos inside]
  rw [List.takeWhile_cons_of_neg (by decide), List.append_nil, String.ofList_toList]

theorem of_other {v : Value} (other : ¬ ∃ text, v = .text text) : ofValue v = .error .wrongType := by
  cases v with
  | text s => exact absurd ⟨s, rfl⟩ other
  | _ => rfl

end Did

/-! ### Registrations -/

namespace Directory

variable {ρ : Type}

-- One more registration. Where it is refused, the directory stays as it is.
def enter (d : Directory ρ) (registration : Value × ρ) : Directory ρ :=
  match d.register registration.1 registration.2 with
  | .ok after => after
  | .error _ => d

def built (registrations : List (Value × ρ)) : Directory ρ := registrations.foldl enter empty

-- What was registered last under a name, and what was never registered.
def LastFor (registrations : List (Value × ρ)) (m : String) (r : ρ) : Prop :=
  ∃ earlier later, registrations = earlier ++ (.text m, r) :: later ∧ ∀ x ∈ later, x.1 ≠ .text m

def Unnamed (registrations : List (Value × ρ)) (m : String) : Prop := ∀ x ∈ registrations, x.1 ≠ .text m

theorem last_or_unnamed (registrations : List (Value × ρ)) (m : String) :
    (∃ r, LastFor registrations m r) ∨ Unnamed registrations m := by
  induction registrations with
  | nil => exact .inr nofun
  | cons first rest ih =>
      rcases ih with ⟨r, earlier, later, rfl, others⟩ | unnamed
      · exact .inl ⟨r, first :: earlier, later, rfl, others⟩
      · obtain ⟨method, r⟩ := first
        by_cases named : method = .text m
        · subst named
          exact .inl ⟨r, [], rest, rfl, unnamed⟩
        · exact .inr (List.forall_mem_cons.mpr ⟨named, unnamed⟩)

theorem enter_named (d : Directory ρ) (m : String) (r : ρ) : (d.enter (.text m, r)).registrars.get? (.text m) = some r :=
  Entries.get_put_same rfl r d.registrars

theorem enter_other (d : Directory ρ) {registration : Value × ρ} {m : String} (other : registration.1 ≠ .text m) :
    (d.enter registration).registrars.get? (.text m) = d.registrars.get? (.text m) := by
  obtain ⟨method, r⟩ := registration
  unfold enter register
  by_cases scalar : method.hashable = true
  · have apart : method.alike (.text m) = false := Bool.eq_false_of_not_eq_true fun same => other (Value.alike_text same)
    rw [if_pos scalar]
    exact Entries.get_put_other scalar rfl apart r d.registrars
  · rw [if_neg scalar]

theorem entered_kept (d : Directory ρ) {registrations : List (Value × ρ)} {m : String} (unnamed : Unnamed registrations m) :
    (registrations.foldl enter d).registrars.get? (.text m) = d.registrars.get? (.text m) := by
  induction registrations generalizing d with
  | nil => rfl
  | cons first rest ih =>
      obtain ⟨other, others⟩ := List.forall_mem_cons.mp unnamed
      rw [List.foldl_cons, ih (d.enter first) others, enter_other d other]

theorem lookup_last {registrations : List (Value × ρ)} {m : String} {r : ρ} (last : LastFor registrations m r) :
    (built registrations).lookup (.text m) = .ok r := by
  obtain ⟨earlier, later, rfl, others⟩ := last
  have found : (built (earlier ++ (.text m, r) :: later)).registrars.get? (.text m) = some r := by
    rw [built, List.foldl_append, List.foldl_cons, entered_kept _ others, enter_named]
  have scalar : (Value.text m).hashable = true := rfl
  rw [lookup, if_pos scalar, found]

theorem lookup_unnamed {registrations : List (Value × ρ)} {m : String} (unnamed : Unnamed registrations m) :
    (built registrations).lookup (.text m) = .error (.noRegistrar m) := by
  have missing : (built registrations).registrars.get? (.text m) = none := entered_kept empty unnamed
  have scalar : (Value.text m).hashable = true := rfl
  rw [lookup, if_pos scalar, missing]
  rfl

theorem registrar_for_method (d : Directory ρ) {m : String} (named : m ≠ "") :
    d.registrarFor (.text m) .null = d.lookup (.text m) := by
  have given : (Value.text m).truthy = true := decide_eq_true named
  have none_given : Value.null.truthy = false := rfl
  simp only [registrarFor, given, none_given]

-- The registrar for a method, by what was registered.
structure ByMethod (registrations : List (Value × ρ)) (m : String) (found : Except Error ρ) : Prop where
  last : ∀ r, found = .ok r ↔ LastFor registrations m r
  unknown : found = .error (.noRegistrar m) ↔ Unnamed registrations m
  unsupported : ∀ e, found = .error e → e.kind = .unsupportedMethod

theorem lookup_by_method (registrations : List (Value × ρ)) (m : String) :
    ByMethod registrations m ((built registrations).lookup (.text m)) := by
  rcases last_or_unnamed registrations m with ⟨r, last⟩ | unnamed
  · have found := lookup_last last
    refine ⟨fun s => ⟨fun same => ?_, lookup_last⟩, ⟨fun missing => ?_, lookup_unnamed⟩, fun e missing => ?_⟩
    · cases found.symm.trans same
      exact last
    · cases found.symm.trans missing
    · cases found.symm.trans missing
  · have missing := lookup_unnamed unnamed
    refine ⟨fun s => ⟨fun found => ?_, lookup_last⟩, ⟨fun _ => unnamed, lookup_unnamed⟩, fun e same => ?_⟩
    · cases missing.symm.trans found
    · cases missing.symm.trans same
      rfl

/-! ### Looking up by DID -/

theorem registrar_for_matched (d : Directory ρ) {text method : String} (matched : Did.Matches text method) :
    d.registrarFor .null (.text text) = d.registrarFor (.text method) .null := by
  obtain ⟨did, read, rfl⟩ := Did.parse_of_matches matched
  rw [registrar_for_parsed d read, registrar_for_method d (Did.spells_of_parse read).named]

theorem registrar_for_unmatched (d : Directory ρ) {text : String} (unmatched : ¬ ∃ method, Did.Matches text method) :
    d.registrarFor .null (.text text) = .error (if text = "" then .methodNorDid else .didNotParsed text) := by
  apply registrar_for_unparsed
  rw [Option.eq_none_iff_forall_ne_some]
  exact fun did read => unmatched ⟨did.method, Did.matches_of_parse read⟩

-- The registrar for a DID, by the method between its colons.
structure ByDid (d : Directory ρ) (text : String) : Prop where
  matched : ∀ method, Did.Matches text method → method = Did.betweenColons text ∧ method ≠ "" ∧
    d.registrarFor .null (.text text) = d.registrarFor (.text method) .null
  unmatched : (¬ ∃ method, Did.Matches text method) →
    ∃ e, d.registrarFor .null (.text text) = .error e ∧ e.kind = .invalidInput

theorem registrar_by_did (d : Directory ρ) (text : String) : ByDid d text := by
  refine ⟨fun method matched => ⟨(Did.between_colons matched).symm, matched.1, registrar_for_matched d matched⟩, ?_⟩
  intro unmatched
  refine ⟨_, registrar_for_unmatched d unmatched, ?_⟩
  split <;> rfl

end Directory

/-! ### Operations -/

-- The operations on an identifier.
inductive Operation.On {κ ς : Type} (i : Identifier) : Operation κ ς → Prop where
  | addKey (key : κ) (options : Value) : On i (.addKey i key options)
  | addService (service : ς) (options : Value) : On i (.addService i service options)
  | removeKey (kid options : Value) : On i (.removeKey i kid options)
  | removeService (serviceId options : Value) : On i (.removeService i serviceId options)
  | updateIdentifier (document options : Value) : On i (.updateIdentifier i document options)
  | deleteIdentifier : On i (.deleteIdentifier i)

theorem Operation.on_target {κ ς : Type} {i : Identifier} {op : Operation κ ς} (on : op.On i) : op.target = (.null, i.did) := by
  cases on <;> rfl

-- Asked for by its name, an operation is the call of that name, with what was not given left out.
theorem Operation.named_on {name : String} {i : Identifier} {args : List Value} {op : Operation Value Value}
    (asked : named name i args = .ok op) :
    op.On i ∧ ∃ left, op.call = (name, i.did :: args ++ left) ∧ (left = [] ∨ left = [.null]) := by
  unfold named at asked
  split at asked
  · cases asked
    exact ⟨.addKey _ _, [], rfl, .inl rfl⟩
  · cases asked
    exact ⟨.addService _ _, [], rfl, .inl rfl⟩
  · cases asked
    exact ⟨.removeKey _ _, [.null], rfl, .inr rfl⟩
  · cases asked
    exact ⟨.removeKey _ _, [], rfl, .inl rfl⟩
  · cases asked
    exact ⟨.removeService _ _, [.null], rfl, .inr rfl⟩
  · cases asked
    exact ⟨.removeService _ _, [], rfl, .inl rfl⟩
  · cases asked
    exact ⟨.updateIdentifier _ _, [.null], rfl, .inr rfl⟩
  · cases asked
    exact ⟨.updateIdentifier _ _, [], rfl, .inl rfl⟩
  · cases asked
    exact ⟨.deleteIdentifier, [], rfl, .inl rfl⟩
  · cases asked

namespace Directory

variable {ρ κ ς τ α : Type}

-- An operation at a desk, with registrars of any sort and what each of them makes of an operation.
def handOn (d : Directory ρ) (perform : ρ → Operation κ ς → Act τ α) (op : Operation κ ς) : Act τ α := do
  let (r, handed) ← Act.ofExcept (d.dispatch op)
  perform r handed

theorem submit_hands_on (d : Directory EbsiRegistrar) (p : Partners τ) :
    d.submit p = d.handOn fun reg op => reg.perform p op := rfl

-- The registrar is called once, with the operation as it was asked.
structure CalledOnce (d : Directory ρ) (op : Operation κ ς) (r : ρ) : Prop where
  dispatched : d.dispatch op = .ok (r, op)
  performed : ∀ {τ α : Type} (perform : ρ → Operation κ ς → Act τ α), d.handOn perform op = perform r op

-- No registrar is called, whatever they would do, and nothing happens at the desk.
structure NoneCalled (d : Directory ρ) (op : Operation κ ς) (e : Error) : Prop where
  dispatched : d.dispatch op = .error e
  unperformed : ∀ {τ α : Type} (perform : ρ → Operation κ ς → Act τ α) (desk : Desk τ),
    d.handOn perform op desk = ⟨.error e, [], desk⟩

variable {d : Directory ρ} {op : Operation κ ς}

theorem called_once {r : ρ} (found : d.registrarFor op.target.1 op.target.2 = .ok r) : CalledOnce d op r := by
  have dispatched : d.dispatch op = .ok (r, op) := by
    rw [dispatch, found]
    rfl
  refine ⟨dispatched, fun perform => funext fun desk => ?_⟩
  rw [handOn, dispatched, Act.of_except_bind_ok]

theorem none_called {e : Error} (missing : d.registrarFor op.target.1 op.target.2 = .error e) : NoneCalled d op e := by
  have dispatched : d.dispatch op = .error e := by
    rw [dispatch, missing]
    rfl
  refine ⟨dispatched, fun perform desk => ?_⟩
  rw [handOn, dispatched, Act.of_except_bind_error]

theorem method_matches {i : Identifier} {m : String} (method : i.method = .ok m) :
    ∃ text, i.did = .text text ∧ Did.Matches text m := by
  by_cases spelt : ∃ text, i.did = .text text
  · obtain ⟨text, did⟩ := spelt
    rw [Identifier.method, did, Did.ofValue] at method
    cases read : Did.parse? text with
    | none =>
        rw [read] at method
        cases method
    | some parsed =>
        rw [read] at method
        cases method
        exact ⟨text, did, Did.matches_of_parse read⟩
  · rw [Identifier.method, Did.of_other spelt] at method
    cases method

theorem registrar_for_identifier {i : Identifier} {m : String} (d : Directory ρ) (method : i.method = .ok m) :
    d.registrarFor .null i.did = d.lookup (.text m) := by
  obtain ⟨text, did, matched⟩ := method_matches method
  rw [did, registrar_for_matched d matched, registrar_for_method d matched.1]

theorem registrar_for_other (d : Directory ρ) {did : Value} (other : ¬ ∃ text, did = .text text) :
    ∃ e, d.registrarFor .null did = .error e := by
  have none_given : Value.null.truthy = false := rfl
  cases given : did.truthy with
  | false =>
      refine ⟨.methodNorDid, ?_⟩
      simp only [registrarFor, none_given, given]
  | true =>
      refine ⟨.wrongType, ?_⟩
      simp only [registrarFor, none_given, given, methodOf, Did.of_other other]
      rfl

theorem registrar_for_unread {i : Identifier} {e : Error} (d : Directory ρ) (unread : i.method = .error e) :
    ∃ cause, d.registrarFor .null i.did = .error cause ∧ ∀ text, i.did = .text text → cause.kind = .invalidInput := by
  by_cases spelt : ∃ text, i.did = .text text
  · obtain ⟨text, did⟩ := spelt
    have unmatched : ¬ ∃ method, Did.Matches text method := by
      rintro ⟨method, matched⟩
      obtain ⟨parsed, read, rfl⟩ := Did.parse_of_matches matched
      rw [Identifier.method, did, Did.ofValue, read] at unread
      cases unread
    obtain ⟨cause, missing, kind⟩ := (registrar_by_did d text).unmatched unmatched
    rw [did]
    exact ⟨cause, missing, fun _ _ => kind⟩
  · obtain ⟨cause, missing⟩ := registrar_for_other d spelt
    exact ⟨cause, missing, fun text did => absurd ⟨text, did⟩ spelt⟩

-- What becomes of an operation on an identifier, by the method of the identifier.
structure Dispatched (registrations : List (Value × ρ)) (i : Identifier) (op : Operation κ ς) : Prop where
  last : ∀ m r, i.method = .ok m → LastFor registrations m r → CalledOnce (built registrations) op r
  unknown : ∀ m, i.method = .ok m → Unnamed registrations m → NoneCalled (built registrations) op (.noRegistrar m)
  unread : ∀ e, i.method = .error e → ∃ cause, NoneCalled (built registrations) op cause ∧
    ∀ text, i.did = .text text → cause.kind = .invalidInput

theorem dispatched {registrations : List (Value × ρ)} {i : Identifier} (on : op.On i) : Dispatched registrations i op := by
  have target := Operation.on_target on
  constructor
  · intro m r method last
    apply called_once
    rw [target, registrar_for_identifier _ method]
    exact lookup_last last
  · intro m method unnamed
    apply none_called
    rw [target, registrar_for_identifier _ method]
    exact lookup_unnamed unnamed
  · intro e unread
    obtain ⟨cause, missing, kind⟩ := registrar_for_unread (built registrations) unread
    refine ⟨cause, none_called ?_, kind⟩
    rw [target]
    exact missing

-- However a directory came about, DIDs and methods lead to the registrar that was registered last, and each operation on
-- an identifier is one call on it or none at all. Operations that are submitted are handed on in this way.
theorem operations_dispatched (registrations : List (Value × ρ)) :
    (∀ text, ByDid (built registrations) text) ∧
    (∀ m, m ≠ "" → ByMethod registrations m ((built registrations).registrarFor (.text m) .null)) ∧
    (∀ {κ ς : Type} (i : Identifier) (op : Operation κ ς), op.On i → Dispatched registrations i op) ∧
    (∀ name i args op, Operation.named name i args = .ok op →
      op.On i ∧ ∃ left, op.call = (name, i.did :: args ++ left) ∧ (left = [] ∨ left = [.null])) ∧
    ∀ {τ : Type} (d : Directory EbsiRegistrar) (p : Partners τ), d.submit p = d.handOn fun reg op => reg.perform p op := by
  refine ⟨fun text => registrar_by_did _ text, fun m named => ?_, fun i op on => dispatched on, ?_, submit_hands_on⟩
  · rw [registrar_for_method _ named]
    exact lookup_by_method registrations m
  · exact fun name i args op asked => Operation.named_on asked

-- A DID with colons in its id and a newline at its end, of a method that was registered twice, and two others.
theorem operations_dispatched_registered_again :
    let registrations : List (Value × Nat) := [(.text "ebsi", 1), (.list [], 2), (.text "key", 3), (.text "ebsi", 4)]
    let delete (did : String) : Operation Unit Unit := .deleteIdentifier ⟨.text did, .null, [], [], .null, .null⟩
    CalledOnce (built registrations) (delete "did:ebsi:a::%41\n") 4 ∧
      NoneCalled (built registrations) (delete "did:web:a") (.noRegistrar "web") ∧
      ∃ e, NoneCalled (built registrations) (delete "did:ebsi:a:") e ∧ e.kind = .invalidInput := by
  intro registrations delete
  obtain ⟨_, _, operations, _, _⟩ := operations_dispatched registrations
  have each (did : String) : Dispatched registrations ⟨.text did, .null, [], [], .null, .null⟩ (delete did) :=
    operations _ _ .deleteIdentifier
  have last : LastFor registrations "ebsi" 4 := ⟨[(.text "ebsi", 1), (.list [], 2), (.text "key", 3)], [], rfl, nofun⟩
  have unnamed : Unnamed registrations "web" := by
    intro x member
    simp only [registrations, List.mem_cons, List.not_mem_nil, or_false] at member
    rcases member with rfl | rfl | rfl | rfl <;> simp
  obtain ⟨e, none, kind⟩ := (each "did:ebsi:a:").unread .invalidDid rfl
  exact ⟨(each _).last "ebsi" 4 (by rfl) last, (each _).unknown "web" (by rfl) unnamed, e, none, kind _ rfl⟩

end Directory
end EbsiDid
