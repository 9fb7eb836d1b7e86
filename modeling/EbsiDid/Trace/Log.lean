import EbsiDid.Error.Basic

set_option autoImplicit false

/-!
Log lines, and computations that end in a value or an error and leave log lines either way.
-/
namespace EbsiDid

inductive Level where
  | debug
  | info
  | warning
  | error
deriving DecidableEq, Repr

def Level.name : Level → String
  | .debug => "DEBUG"
  | .info => "INFO"
  | .warning => "WARNING"
  | .error => "ERROR"

structure LogLine where
  level : Level
  text : String
deriving DecidableEq, Repr

def LogLine.render (line : LogLine) : String := line.level.name ++ " " ++ line.text

abbrev Log := List LogLine

structure Reply (α : Type) where
  result : Except Error α
  log : Log

namespace Reply

variable {α β : Type}

def silent (result : Except Error α) : Reply α := ⟨result, []⟩

def bind (r : Reply α) (f : α → Reply β) : Reply β :=
  match r.result with
  | .ok a => let s := f a; ⟨s.result, r.log ++ s.log⟩
  | .error e => ⟨.error e, r.log⟩

def map (f : α → β) (r : Reply α) : Reply β := ⟨r.result.map f, r.log⟩

end Reply
end EbsiDid
