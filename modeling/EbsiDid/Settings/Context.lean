import EbsiDid.Settings.Basic

set_option autoImplicit false

/-!
Contexts: settings together with instances bound to classes. What is looked up has to be an instance
of the class under which it was bound.
-/
namespace EbsiDid

/-- A context over classes `κ` and instances `ι`. -/
structure Context (κ ι : Type) where
  settings : Settings
  bindings : List (κ × ι)

namespace Context

variable {κ ι : Type} [DecidableEq κ]

def ofSettings (settings : Settings) : Context κ ι := ⟨settings, []⟩

def bind (c : Context κ ι) (cls : κ) (i : ι) : Context κ ι :=
  { c with bindings := (cls, i) :: c.bindings.filter fun b => b.1 ≠ cls }

def clear (c : Context κ ι) (cls : κ) : Context κ ι :=
  { c with bindings := c.bindings.filter fun b => b.1 ≠ cls }

def bound? (c : Context κ ι) (cls : κ) : Option ι := (c.bindings.find? fun b => b.1 = cls).map Prod.snd

/-- The instance bound to a class, or a default. -/
def injectOr (c : Context κ ι) (cls : Option κ) (default : ι) : Except Error ι :=
  match cls with
  | none => .error .noClassGiven
  | some cls => .ok ((c.bound? cls).getD default)

/-- The instance bound to a class. One that `isNothing` accepts counts as no binding. -/
def inject (c : Context κ ι) (name : κ → String) (isNothing : ι → Bool) (isA : ι → κ → Bool)
    (cls : Option κ) : Except Error ι :=
  match cls with
  | none => .error .noClassGiven
  | some cls =>
      match c.bound? cls with
      | none => .error (.noInstance (name cls))
      | some i =>
          if isNothing i then .error (.noInstance (name cls))
          else if isA i cls then .ok i
          else .error (.wrongInstance (name cls))

/-- Replaces the settings by a copy of others. -/
def withSettings (c : Context κ ι) (settings : Settings) : Context κ ι := { c with settings := settings }

/-- Puts the settings that a value stands for. Those in front of an error stay. -/
def updateSettings (c : Context κ ι) (later : Value) : Except Error Unit × Context κ ι :=
  if later.truthy then
    let (r, entries) := c.settings.entries.absorb later
    (r, { c with settings := ⟨entries⟩ })
  else (.ok (), c)

/-- A copy with settings and bindings of its own. The settings are read entry by entry. -/
def copy (c : Context κ ι) : Except Error (Context κ ι) := do
  let entries ← c.settings.items
  return ⟨Settings.ofEntries entries, c.bindings⟩

end Context
end EbsiDid
