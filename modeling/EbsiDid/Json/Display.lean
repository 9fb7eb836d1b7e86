import EbsiDid.Json.Value
import EbsiDid.Number.Shortest
import EbsiDid.Text.Quoted

set_option autoImplicit false

/-!
The text of a value inside a message. A text stands for itself; inside a list or a record it is
quoted, as is every value when it is shown by `quoted`.

Of the limits of what runs this, one is a rule here: base ten is written with no more digits than it is read with.
Settings take integers of any size, so that they ask whether a value is `quotable`; all else that puts an integer into
a text takes it to be within the limit. How deep a value may nest hangs on the stack and is no rule, neither for
quoting nor for reading.
-/
namespace EbsiDid.Value

def realWords : Binary64.Words := ⟨"nan", "inf"⟩

def truthText (b : Bool) : String := if b then "True" else "False"

mutual
def quoted : Value → String
  | .null => "None"
  | .bool b => truthText b
  | .int n => Number.text n
  | .real x => x.text realWords
  | .text s => Text.quoted s
  | .list items => "[" ++ Text.joined ", " (quotedItems items) ++ "]"
  | .record fields => "\x7b" ++ Text.joined ", " (quotedFields fields) ++ "\x7d"

def quotedItems : List Value → List String
  | [] => []
  | v :: rest => quoted v :: quotedItems rest

def quotedFields : List (String × Value) → List String
  | [] => []
  | (k, v) :: rest => (Text.quoted k ++ ": " ++ quoted v) :: quotedFields rest
end

mutual
/-- Can the value be quoted? Its integers must have no more digits than a numeral may have. -/
def quotable : Value → Bool
  | .int n => decide (n.natAbs < Nat.pow 10 Number.digitLimit)
  | .list items => itemsQuotable items
  | .record fields => fieldsQuotable fields
  | _ => true

def itemsQuotable : List Value → Bool
  | [] => true
  | v :: rest => quotable v && itemsQuotable rest

def fieldsQuotable : List (String × Value) → Bool
  | [] => true
  | (_, v) :: rest => quotable v && fieldsQuotable rest
end

def display : Value → String
  | .text s => s
  | v => quoted v

end EbsiDid.Value
