import ApiLint.Value.Text
import ApiLint.Text.Blank

/-!
# Presence of a field

Whether an optional field carries content. Null and a missing field are `absent`; a blank text, and
a list whose items are all null or blank, are `empty`; everything else is `nonEmpty`.
-/

namespace ApiLint

/-- How much of an optional field is there. -/
inductive Presence
  | absent
  | empty
  | nonEmpty
deriving DecidableEq

namespace Presence

/-- The name of a degree of presence. -/
def name : Presence → String
  | .absent => "absent"
  | .empty => "empty"
  | .nonEmpty => "non_empty"

/-- The text that an item of a list contributes; null contributes nothing. -/
def itemText : Value → Except Fault String
  | .null => .ok ""
  | v => v.text

/-- The text by which content is judged: of a list or tuple the texts of its items in a row. -/
def content (v : Value) : Except Fault String :=
  match v.items? with
  | some items => do return String.join (← items.mapM itemText)
  | none => v.text

/-- How much of a value is there. -/
def of : Value → Except Fault Presence
  | .null => .ok .absent
  | v => do return if Text.allBlank (← content v) then .empty else .nonEmpty

/-- How much of a field of a mapping is there. -/
def ofField (es : Entries) (name : String) : Except Fault Presence :=
  of ((es.field? name).getD .null)

end Presence

end ApiLint
