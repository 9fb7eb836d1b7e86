import EbsiDid.Json.Conversion
import EbsiDid.Json.Members
import EbsiDid.Key.Assignment
import EbsiDid.Model.Identifier
import EbsiDid.Registry.Spec
import EbsiDid.Registry.Endpoint

set_option autoImplicit false

/-!
Options of the registrar's operations. An option that is absent is null.
-/
namespace EbsiDid

/-- The options that a value stands for: a record, a list of pairs, or none for what is empty. An
option is asked for by a text. -/
def optionsOf (v : Value) : Except Error Record := (Entries.ofValue v).map Entries.record

/-- The kind of DID that a new identifier is asked to have: the usual one, one that is described, or
something that is no description. -/
inductive SpecChoice where
  | usual
  | described (spec : DidSpec)
  | unfit

namespace DidSpec

/-- A description has a type and a method. -/
def ofArguments (a : Record) : Except Error DidSpec := do
  Model.checkArguments ["type", "method"] ["version", "did_length", "private_key_length"] a
  return ⟨a.get "type", a.get "method", a.get "version", a.get "did_length", a.get "private_key_length"⟩

end DidSpec

namespace SpecChoice

/-- The kind of DID that a value names or describes. -/
def ofValue (v : Value) : Except Error SpecChoice :=
  match v with
  | .null => .ok .usual
  | .text "V1" => .ok (.described DidSpec.v1)
  | .text "KEY" => .ok (.described DidSpec.key)
  | .text _ => .error .missingAttribute
  | .record a => (DidSpec.ofArguments a).map described
  | _ => .error .wrongType

/-- The kind that options ask for. Only a record of options is read for a name or a description; in
a list of pairs nothing that counts is one. -/
def ofOptions (options : Value) : Except Error SpecChoice :=
  match options with
  | .record fields => ofValue (Record.get "type" fields)
  | _ => .ok .unfit

end SpecChoice

/-- From when until when a verification method is valid. -/
structure Validity where
  notBefore : Value
  notAfter : Value

/-- The interval that options ask for. It starts now and does not end, unless they say otherwise. The
clock is read only where it is needed. -/
def Validity.ofOptions (options : Record) (clock : Value) : Except Error Validity := do
  let notAfter := (options.get "not_after").orElse (.int Registry.maxNotAfter)
  if (options.get "not_before").truthy then return ⟨options.get "not_before", notAfter⟩
  match clock.toInteger with
  | .ok now => return ⟨.int now, notAfter⟩
  | .error kind => .error (.foreign kind)

/-- The names in a request for relationships. A single text is one name, and what is empty has none. -/
def namesRequested (names : Value) : Except Error (List Value) :=
  match names with
  | .text _ => .ok [names]
  | _ => if names.truthy then Purpose.namesIn names else .ok []

/-- Purposes in order of their first occurrence, once each. -/
def onceEach (purposes : List Purpose) : List Purpose :=
  purposes.foldl (fun seen p => if seen.contains p then seen else seen ++ [p]) []

/-- The verification relationships that an option names, in order and once each. -/
def relationshipsOf (names : Value) : Except Error (List Purpose) := do
  let given ← namesRequested names
  if given.isEmpty then .error .noRelationship
  let purposes ← Purpose.ofValues given
  return onceEach purposes

/-- The bytes of a private key option, if there is one. -/
def suppliedKey (v : Value) : Except Error (Option Bytes) :=
  if v.truthy then
    match v with
    | .text s =>
        match Hex.decode (Hex.stripMark s) with
        | some bytes => .ok (some bytes)
        | none => .error .privateKeyNotHex
    | _ => .error .missingAttribute
  else .ok none

end EbsiDid
