import ApiLint.Value

/-!
# Texts of values

* `Value.text` is the text of a value that stands alone: of a string the string itself;
* `Value.literal` is its text inside a larger one, where strings are quoted.

Both fail only for an integer with more digits than are converted.
-/

namespace ApiLint

namespace Scalar

/-- A scalar inside a larger text. -/
def literal : Scalar → Except Fault String
  | .null => .ok "None"
  | .bool b => .ok (if b then "True" else "False")
  | .int n => Decimal.integerText n
  | .float x => .ok x.text
  | .str s => .ok (Text.quoted s)
  | .bytes bs => .ok (Text.quotedBytes bs)
  | .date d => .ok d.literal
  | .time t => .ok t.literal

/-- A scalar that stands alone. -/
def text : Scalar → Except Fault String
  | .str s => .ok s
  | .date d => .ok d.text
  | .time t => .ok t.text
  | s => s.literal

end Scalar

/-- The items of a tuple between parentheses; a comma marks a tuple of one. -/
def tupleText (items : List String) : String :=
  match items with
  | [item] => "(" ++ item ++ ",)"
  | items => "(" ++ ", ".intercalate items ++ ")"

mutual

/-- A key inside a larger text. -/
def Key.literal : Key → Except Fault String
  | .scalar s => s.literal
  | .tuple items => do return tupleText (← Key.literals items)

/-- Keys inside a larger text. -/
def Key.literals : List Key → Except Fault (List String)
  | [] => .ok []
  | k :: ks => do return (← k.literal) :: (← Key.literals ks)

end

/-- A key that stands alone. -/
def Key.text : Key → Except Fault String
  | .scalar s => s.text
  | k => k.literal

mutual

/-- A value inside a larger text. -/
def Value.literal : Value → Except Fault String
  | .scalar s => s.literal
  | .list items => do return "[" ++ ", ".intercalate (← Value.literals items) ++ "]"
  | .tuple items => do return tupleText (← Value.literals items)
  | .set items => do
    if items.isEmpty then return "set()"
    return "\x7b" ++ ", ".intercalate (← Key.literals items) ++ "\x7d"
  | .map entries => do return "\x7b" ++ ", ".intercalate (← Value.entryLiterals entries) ++ "\x7d"

/-- Values inside a larger text. -/
def Value.literals : List Value → Except Fault (List String)
  | [] => .ok []
  | v :: vs => do return (← v.literal) :: (← Value.literals vs)

/-- Entries inside a larger text, each a key, a colon and a value. -/
def Value.entryLiterals : List (Key × Value) → Except Fault (List String)
  | [] => .ok []
  | (k, v) :: es => do
    let key ← k.literal
    let value ← v.literal
    return (key ++ ": " ++ value) :: (← Value.entryLiterals es)

end

/-- A value that stands alone. -/
def Value.text : Value → Except Fault String
  | .scalar s => s.text
  | v => v.literal

end ApiLint
