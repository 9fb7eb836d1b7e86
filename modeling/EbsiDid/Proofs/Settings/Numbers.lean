import EbsiDid.Proofs.Number.Range
import EbsiDid.Rpc.Client

set_option autoImplicit false

/-!
Settings read as numbers, and the client that reads its time limit so. What a value does not give is reported as an error
of configuration, apart from numbers that are out of range and from values that the report itself cannot quote.
-/
namespace EbsiDid

namespace Value

/-! ### Conversions that fail -/

theorem integer_overflow_iff {v : Value} :
    v.toInteger = .error .overflow ↔ ∃ negative, v = .real (Binary64.infinity negative) := by
  constructor
  · intro overflow
    cases v with
    | real x =>
        simp only [toInteger] at overflow
        split at overflow
        · cases overflow
        · rename_i negative reads
          exact ⟨negative, congrArg Value.real (Binary64.reading_infinite reads)⟩
        · cases overflow
    | text s =>
        simp only [toInteger] at overflow
        split at overflow <;> cases overflow
    | _ => cases overflow
  · rintro ⟨negative, rfl⟩
    simp only [toInteger, Binary64.infinity_reading]

theorem real_overflow_iff {v : Value} :
    v.toReal = .error .overflow ↔ ∃ n, v = .int n ∧ Binary64.rangeEnd ≤ n.natAbs := by
  constructor
  · intro overflow
    cases v with
    | int n =>
        simp only [toReal] at overflow
        split at overflow
        · cases overflow
        · rename_i none
          exact ⟨n, rfl, (Binary64.of_int_none_iff n).mp none⟩
    | text s =>
        simp only [toReal] at overflow
        split at overflow <;> cases overflow
    | _ => cases overflow
  · rintro ⟨n, rfl, beyond⟩
    simp only [toReal, (Binary64.of_int_none_iff n).mpr beyond]

/-! ### Values that cannot be quoted -/

-- An integer is somewhere in a value.
inductive Holds (n : Int) : Value → Prop
  | itself : Holds n (.int n)
  | item {items : List Value} {v : Value} (member : v ∈ items) (inside : Holds n v) : Holds n (.list items)
  | field {fields : Record} {key : String} {v : Value} (member : (key, v) ∈ fields) (inside : Holds n v) :
      Holds n (.record fields)

def Writable (n : Int) : Prop := n.natAbs < Nat.pow 10 Number.digitLimit

theorem power_unwritable : ¬ Writable (Nat.pow 10 Number.digitLimit : Nat) := by
  rw [Writable, Int.natAbs_natCast]
  exact Nat.lt_irrefl _

theorem of_items_quotable {items : List Value} (quotable : itemsQuotable items = true) :
    ∀ v ∈ items, v.quotable = true := by
  induction items with
  | nil => exact nofun
  | cons v rest ih =>
      rw [itemsQuotable, Bool.and_eq_true] at quotable
      exact List.forall_mem_cons.mpr ⟨quotable.1, ih quotable.2⟩

theorem of_fields_quotable {fields : Record} (quotable : fieldsQuotable fields = true) :
    ∀ field ∈ fields, field.2.quotable = true := by
  induction fields with
  | nil => exact nofun
  | cons field rest ih =>
      rw [fieldsQuotable, Bool.and_eq_true] at quotable
      exact List.forall_mem_cons.mpr ⟨quotable.1, ih quotable.2⟩

theorem writable_of_quotable {n : Int} {v : Value} (holds : Holds n v) (quotable : v.quotable = true) : Writable n := by
  induction holds with
  | itself =>
      rw [Value.quotable, decide_eq_true_eq] at quotable
      exact quotable
  | item member _ ih =>
      rw [Value.quotable] at quotable
      exact ih (of_items_quotable quotable _ member)
  | field member _ ih =>
      rw [Value.quotable] at quotable
      exact ih (of_fields_quotable quotable _ member)

mutual
theorem quotable_of_writable (v : Value) (writable : ∀ n, Holds n v → Writable n) : v.quotable = true := by
  cases v with
  | int n =>
      rw [quotable, decide_eq_true_eq]
      exact writable n .itself
  | list items =>
      rw [quotable]
      exact items_quotable_of_writable items fun _ member n inside => writable n (.item member inside)
  | record fields =>
      rw [quotable]
      exact fields_quotable_of_writable fields fun _ member n inside => writable n (.field member inside)
  | null | bool | real | text => rfl

theorem items_quotable_of_writable (items : List Value) (writable : ∀ v ∈ items, ∀ n, Holds n v → Writable n) :
    itemsQuotable items = true := by
  cases items with
  | nil => rfl
  | cons v rest =>
      obtain ⟨first, later⟩ := List.forall_mem_cons.mp writable
      rw [itemsQuotable, quotable_of_writable v first, items_quotable_of_writable rest later]
      rfl

theorem fields_quotable_of_writable (fields : List (String × Value))
    (writable : ∀ field ∈ fields, ∀ n, Holds n field.2 → Writable n) : fieldsQuotable fields = true := by
  cases fields with
  | nil => rfl
  | cons field rest =>
      obtain ⟨key, v⟩ := field
      obtain ⟨first, later⟩ := List.forall_mem_cons.mp writable
      rw [fieldsQuotable, quotable_of_writable v first, fields_quotable_of_writable rest later]
      rfl
end

theorem unquotable_iff {v : Value} : v.quotable = false ↔ ∃ n, Holds n v ∧ ¬ Writable n := by
  constructor
  · intro unquotable
    by_contra none
    have writable (n : Int) (holds : Holds n v) : Writable n := by
      by_contra long
      exact none ⟨n, holds, long⟩
    rw [quotable_of_writable v writable] at unquotable
    cases unquotable
  · rintro ⟨n, holds, long⟩
    rw [← Bool.not_eq_true]
    exact fun quotable => long (writable_of_quotable holds quotable)

end Value

/-! ### What becomes of a setting -/

namespace Settings

-- The value under the first of the names that has one, or else the default.
def chosen (s : Settings) (names : List String) (default : Value) : Value :=
  (names.findSome? fun name => s.get? (.text name)).getD default

theorem get_value_chosen (s : Settings) (names : List String) (default : Value) :
    s.getValue (names.map .text) default = .ok (s.chosen names default) := by
  induction names with
  | nil => rfl
  | cons name rest ih =>
      have key : (Value.text name).hashable = true := rfl
      simp only [List.map_cons, getValue, key, if_true]
      cases found : s.get? (.text name) with
      | some v => simp [chosen, found]
      | none => simpa [chosen, found] using ih

section

variable {α : Type} (convert : Value → Except Kind α) (number : α → Value) (report : String → String → Kind → Error)
  (first : String) (v : Value)

-- Both readings, by how they convert and by what they report under the first of the names.
def readAs : Except Error Value :=
  if v.isNull then .ok .null
  else match convert v with
    | .ok a => .ok (number a)
    | .error cause => .error (conversionError report [.text first] v cause)

-- The endings that are foreseen: nothing for nothing, the number of the value, or an error that names the first name and
-- quotes the value.
inductive Settles : Except Error Value → Prop
  | nothing (absent : v = .null) : Settles (.ok .null)
  | number {a : α} (read : convert v = .ok a) : Settles (.ok (number a))
  | refused {cause : Kind} (present : v ≠ .null) (unread : convert v = .error cause) :
      Settles (.error (report first v.quoted cause))

-- The endings that are not: a number out of range, and a list or a record that holds an integer too long to be written.
inductive Escapes (beyond : Value → Prop) : Error → Prop
  | beyond (out : beyond v) : Escapes beyond (.foreign .overflow)
  | unwritten {n : Int} (compound : v.hashable = false) (inside : v.Holds n) (long : ¬ Value.Writable n) :
      Escapes beyond (.foreign .badValue)

end

-- What ends as foreseen unless the value escapes it, and then just so.
structure Accounts {β : Type} (settles : Except Error β → Prop) (escapes : Error → Prop) (r : Except Error β) : Prop where
  settled : settles r ↔ ¬ ∃ e, escapes e
  escaped : ∀ e, escapes e → r = .error e

section Reading

variable {α : Type} {convert : Value → Except Kind α} {number : α → Value} {report : String → String → Kind → Error}
  {first : String} {v : Value} {beyond : Value → Prop}

theorem conversion_reported (cause : Kind) : conversionError report [.text first] v cause =
    if cause = .overflow then .foreign .overflow
    else if v.quotable = true then report first v.quoted cause else .foreign .badValue := by
  have name : (Value.text first).quotable = true := rfl
  simp only [conversionError, name, Bool.true_and]
  rfl

theorem present_not_null (present : v ≠ .null) : v.isNull = false := by
  cases v with
  | null => exact absurd rfl present
  | _ => rfl

theorem read_converted {a : α} (present : v ≠ .null) (read : convert v = .ok a) :
    readAs convert number report first v = .ok (number a) := by
  simp only [readAs, present_not_null present, read]
  rfl

theorem read_unconverted {cause : Kind} (present : v ≠ .null) (unread : convert v = .error cause) :
    readAs convert number report first v = .error (conversionError report [.text first] v cause) := by
  simp only [readAs, present_not_null present, unread]
  rfl

-- What a conversion has to be for its failures to be accounted for.
structure Fit (convert : Value → Except Kind α) (beyond : Value → Prop) : Prop where
  overflow : ∀ v, convert v = .error .overflow ↔ beyond v
  absent : convert .null = .error .wrongType
  compound : ∀ v, v.hashable = false → convert v = .error .wrongType
  plain : ∀ v cause, v.hashable = true → convert v = .error cause → cause ≠ .overflow → v.quotable = true

theorem integer_fit : Fit Value.toInteger fun v => ∃ negative, v = .real (Binary64.infinity negative) where
  overflow _ := Value.integer_overflow_iff
  absent := rfl
  compound v compound := by
    cases v <;> first | rfl | cases compound
  plain v cause plain unread _ := by
    cases v with
    | int n => cases unread
    | list | record => cases plain
    | null | bool | real | text => rfl

theorem real_fit : Fit Value.toReal fun v => ∃ n, v = .int n ∧ Binary64.rangeEnd ≤ n.natAbs where
  overflow _ := Value.real_overflow_iff
  absent := rfl
  compound v compound := by
    cases v <;> first | rfl | cases compound
  plain v cause plain unread other := by
    cases v with
    | int n =>
        simp only [Value.toReal] at unread
        split at unread <;> cases unread
        exact absurd rfl other
    | list | record => cases plain
    | null | bool | real | text => rfl

theorem escaped_read (fit : Fit convert beyond) {e : Error} (escapes : Escapes v beyond e) :
    readAs convert number report first v = .error e := by
  cases escapes with
  | beyond out =>
      have unread := (fit.overflow v).mpr out
      have present : v ≠ .null := by
        rintro rfl
        cases fit.absent.symm.trans unread
      rw [read_unconverted present unread, conversion_reported, if_pos rfl]
  | unwritten compound inside long =>
      have unquotable := Value.unquotable_iff.mpr ⟨_, inside, long⟩
      have present : v ≠ .null := by
        rintro rfl
        cases compound
      rw [read_unconverted present (fit.compound v compound), conversion_reported, if_neg (by decide), unquotable]
      rfl

theorem settled_read (fit : Fit convert beyond) (kept : ¬ ∃ e, Escapes v beyond e) :
    Settles convert number report first v (readAs convert number report first v) := by
  by_cases absent : v = .null
  · subst absent
    exact .nothing rfl
  · cases read : convert v with
    | ok a =>
        rw [read_converted absent read]
        exact .number read
    | error cause =>
        have within : cause ≠ .overflow := by
          rintro rfl
          exact kept ⟨_, .beyond ((fit.overflow v).mp read)⟩
        have quotable : v.quotable = true := by
          by_contra unquotable
          obtain ⟨n, inside, long⟩ := Value.unquotable_iff.mp (Bool.eq_false_iff.mpr unquotable)
          cases shape : v.hashable with
          | true => exact unquotable (fit.plain v cause shape read within)
          | false => exact kept ⟨_, .unwritten shape inside long⟩
        rw [read_unconverted absent read, conversion_reported, if_neg within, if_pos quotable]
        exact .refused absent read

theorem settles_kind (reported : ∀ name shown cause, (report name shown cause).kind = .configuration) {e : Error}
    (settles : Settles convert number report first v (.error e)) : e.kind = .configuration := by
  cases settles
  exact reported ..

theorem escapes_kind {e : Error} (escapes : Escapes v beyond e) : e.kind ≠ .configuration := by
  cases escapes <;> exact nofun

theorem read_accounts (fit : Fit convert beyond) (reported : ∀ name shown cause, (report name shown cause).kind = .configuration) :
    Accounts (Settles convert number report first v) (Escapes v beyond) (readAs convert number report first v) := by
  refine ⟨⟨?_, settled_read fit⟩, fun e => escaped_read fit⟩
  rintro settled ⟨e, escapes⟩
  rw [escaped_read fit escapes] at settled
  exact escapes_kind escapes (settles_kind reported settled)

end Reading

-- Both kinds of values that no reading takes, for each of the two.
abbrev EscapesInteger (v : Value) : Error → Prop := Escapes v fun v => ∃ negative, v = .real (Binary64.infinity negative)

abbrev EscapesReal (v : Value) : Error → Prop := Escapes v fun v => ∃ n, v = .int n ∧ Binary64.rangeEnd ≤ n.natAbs

section

variable (s : Settings) (first : String) (others : List String) (default : Value)

theorem get_int_read : s.getInt ((first :: others).map .text) default =
    readAs Value.toInteger .int .settingNotInteger first (s.chosen (first :: others) default) := by
  simp only [getInt, readAs, get_value_chosen, bind, Except.bind]
  cases (s.chosen (first :: others) default).toInteger <;> rfl

theorem get_float_read : s.getFloat ((first :: others).map .text) default =
    readAs Value.toReal .real .settingNotNumber first (s.chosen (first :: others) default) := by
  simp only [getFloat, readAs, get_value_chosen, bind, Except.bind]
  cases (s.chosen (first :: others) default).toReal <;> rfl

end

/-! ### Clients -/

-- How a client is made whose time limit is left to the settings: the limit is read under its name, and zero is none.
inductive MadeWith (s : Settings) (held : Option Nat) (limit : Value) : Except Error RpcClient → Prop
  | client {v : Value} (read : Settles Value.toReal .real .settingNotNumber "ebsi.rpc_timeout" limit (.ok v)) :
      MadeWith s held limit (.ok ⟨s, if v.truthy then v else .null, held, held.isNone⟩)
  | refused {e : Error} (unread : Settles Value.toReal .real .settingNotNumber "ebsi.rpc_timeout" limit (.error e)) :
      MadeWith s held limit (.error e)

theorem create_limited (s : Settings) {timeout : Value} (given : timeout.truthy = true) (held : Option Nat) :
    RpcClient.create s timeout held = .ok ⟨s, timeout, held, held.isNone⟩ := by
  simp only [RpcClient.create, given, if_true, pure_bind]
  rfl

theorem create_unlimited (s : Settings) {timeout : Value} (absent : timeout.truthy = false) (held : Option Nat) :
    RpcClient.create s timeout held = (s.getFloat [.text "ebsi.rpc_timeout"] .null).map fun v =>
      ⟨s, if v.truthy then v else .null, held, held.isNone⟩ := by
  simp only [RpcClient.create, absent]
  cases s.getFloat [.text "ebsi.rpc_timeout"] .null <;> rfl

theorem made_accounts (s : Settings) (held : Option Nat) {limit : Value} {r : Except Error Value}
    (accounts : Accounts (Settles Value.toReal .real .settingNotNumber "ebsi.rpc_timeout" limit) (EscapesReal limit) r) :
    Accounts (MadeWith s held limit) (EscapesReal limit)
      (r.map fun v => ⟨s, if v.truthy then v else .null, held, held.isNone⟩) := by
  obtain ⟨settled, escaped⟩ := accounts
  refine ⟨⟨?_, ?_⟩, ?_⟩
  · rintro made ⟨e, escapes⟩
    rw [escaped e escapes] at made
    cases made with
    | refused unread => exact escapes_kind escapes (settles_kind (fun _ _ _ => rfl) unread)
  · intro kept
    have settles := settled.mpr kept
    cases r with
    | ok v => exact .client settles
    | error e => exact .refused settles
  · intro e escapes
    rw [escaped e escapes]
    rfl

-- Every setting that is read as a number, and every client, is accounted for.
theorem numbers_settled (s : Settings) (first : String) (others : List String) (default : Value) :
    let names := (first :: others).map Value.text
    let v := s.chosen (first :: others) default
    let limit := s.chosen ["ebsi.rpc_timeout"] .null
    Accounts (Settles Value.toInteger .int .settingNotInteger first v) (EscapesInteger v) (s.getInt names default) ∧
    Accounts (Settles Value.toReal .real .settingNotNumber first v) (EscapesReal v) (s.getFloat names default) ∧
    ∀ timeout held,
      (timeout.truthy = true → RpcClient.create s timeout held = .ok ⟨s, timeout, held, held.isNone⟩) ∧
      (timeout.truthy = false → Accounts (MadeWith s held limit) (EscapesReal limit) (RpcClient.create s timeout held)) := by
  intro names v limit
  refine ⟨?_, ?_, fun timeout held => ⟨fun given => s.create_limited given held, fun absent => ?_⟩⟩
  · rw [get_int_read]
    exact read_accounts integer_fit fun _ _ _ => rfl
  · rw [get_float_read]
    exact read_accounts real_fit fun _ _ _ => rfl
  · have read := s.get_float_read "ebsi.rpc_timeout" [] .null
    rw [create_unlimited s absent]
    apply made_accounts
    rw [List.map_singleton] at read
    rw [read]
    exact read_accounts real_fit fun _ _ _ => rfl

-- Infinity is no integer, the power of two behind all doubles is none of them, and neither is a list.
theorem vast_numbers_escape :
    let unbounded := ofEntries [(.text "count", .real (Binary64.infinity false))]
    let vast := ofEntries [(.text "ebsi.rpc_timeout", .int (2 ^ 1024 : Nat))]
    let long := ofEntries [(.text "count", .list [.int (Nat.pow 10 Number.digitLimit : Nat)])]
    unbounded.getInt [.text "count"] .null = .error (.foreign .overflow) ∧
    vast.getFloat [.text "ebsi.rpc_timeout"] .null = .error (.foreign .overflow) ∧
    RpcClient.create vast .null none = .error (.foreign .overflow) ∧
    long.getInt [.text "count"] .null = .error (.foreign .badValue) ∧
    long.getFloat [.text "count"] .null = .error (.foreign .badValue) ∧
    (Error.foreign .overflow).kind.isA .configuration = false ∧ (Error.foreign .badValue).kind.isA .configuration = false := by
  intro unbounded vast long
  have infinite : EscapesInteger (.real (Binary64.infinity false)) (.foreign .overflow) := .beyond ⟨false, rfl⟩
  have far : EscapesReal (.int (2 ^ 1024 : Nat)) (.foreign .overflow) := .beyond ⟨_, rfl, Nat.sub_le _ _⟩
  have limit : vast.getFloat [.text "ebsi.rpc_timeout"] .null = .error (.foreign .overflow) :=
    (vast.get_float_read "ebsi.rpc_timeout" [] .null).trans (escaped_read real_fit far)
  have unwritten (beyond : Value → Prop) :
      Escapes (.list [.int (Nat.pow 10 Number.digitLimit : Nat)]) beyond (.foreign .badValue) :=
    .unwritten rfl (.item List.mem_cons_self .itself) Value.power_unwritable
  refine ⟨?_, limit, ?_, ?_, ?_, rfl, rfl⟩
  · exact (unbounded.get_int_read "count" [] .null).trans (escaped_read integer_fit infinite)
  · rw [create_unlimited vast rfl, limit]
    rfl
  · exact (long.get_int_read "count" [] .null).trans (escaped_read integer_fit (unwritten _))
  · exact (long.get_float_read "count" [] .null).trans (escaped_read real_fit (unwritten _))

end Settings
end EbsiDid
