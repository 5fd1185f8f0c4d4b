import ApiLint.Value.Text

/-!
# Writing JSON

* `Json.Tree` is a JSON document whose numbers and words already have their text, and
  `Tree.render` its indented form;
* `Tree.ofValue` prepares any document value: dates, times, bytes and sets are written as strings
  of their texts, tuples as arrays.

Characters outside ASCII are written as themselves.
-/

namespace ApiLint.Json

/-- A JSON document ready to be written. -/
inductive Tree
  | raw (text : String)
  | str (s : String)
  | arr (items : List Tree)
  | obj (members : List (String × Tree))

instance : Inhabited Tree := ⟨.raw "null"⟩

/-- A character inside a string. -/
def escapeChar (c : Char) : List Char :=
  if c = '"' then ['\\', '"']
  else if c = '\\' then ['\\', '\\']
  else if c = '\n' then ['\\', 'n']
  else if c = '\r' then ['\\', 'r']
  else if c = '\t' then ['\\', 't']
  else if c = '\x08' then ['\\', 'b']
  else if c = '\x0c' then ['\\', 'f']
  else if c.toNat < 0x20 then '\\' :: 'u' :: Text.hex 4 c.toNat
  else [c]

/-- A string with its quotes. -/
def stringChars (s : String) : List Char :=
  '"' :: (s.toList.flatMap escapeChar ++ ['"'])

/-- A line break and the indentation of a depth. -/
def newline (depth : Nat) : List Char := '\n' :: List.replicate (2 * depth) ' '

namespace Tree

mutual

/-- The indented form of a document that stands at a depth. -/
def chars (depth : Nat) : Tree → List Char
  | .raw text => text.toList
  | .str s => stringChars s
  | .arr [] => ['[', ']']
  | .arr (t :: ts) =>
    '[' :: (newline (depth + 1) ++ t.chars (depth + 1) ++
      moreItems (depth + 1) ts ++ newline depth ++ [']'])
  | .obj [] => ['\x7b', '\x7d']
  | .obj ((name, t) :: ts) =>
    '\x7b' :: (newline (depth + 1) ++ stringChars name ++ ':' :: ' ' :: t.chars (depth + 1) ++
      moreMembers (depth + 1) ts ++ newline depth ++ ['\x7d'])

/-- The items of an array after the first. -/
def moreItems (depth : Nat) : List Tree → List Char
  | [] => []
  | t :: ts => ',' :: (newline depth ++ t.chars depth ++ moreItems depth ts)

/-- The members of an object after the first. -/
def moreMembers (depth : Nat) : List (String × Tree) → List Char
  | [] => []
  | (name, t) :: ts =>
    ',' :: (newline depth ++ stringChars name ++ ':' :: ' ' :: t.chars depth ++
      moreMembers depth ts)

end

/-- The indented form of a whole document. -/
def render (t : Tree) : String := String.ofList (t.chars 0)

/-- A list of strings. -/
def strings (texts : List String) : Tree := .arr (texts.map .str)

end Tree

/-- The text of a double. -/
def doubleText : Binary64 → String
  | .nan => "NaN"
  | .infinity s => if s then "-Infinity" else "Infinity"
  | x => x.text

/-- The name of a member. Words and numbers serve by their text; other keys have none. -/
def memberName : Key → Except Fault String
  | .scalar .null => .ok "null"
  | .scalar (.bool b) => .ok (if b then "true" else "false")
  | .scalar (.int n) => Decimal.integerText n
  | .scalar (.float x) => .ok (doubleText x)
  | .scalar (.str s) => .ok s
  | .scalar (.bytes _) => .error (.notMemberName "bytes")
  | .scalar (.date _) => .error (.notMemberName "date")
  | .scalar (.time _) => .error (.notMemberName "datetime")
  | .tuple _ => .error (.notMemberName "tuple")

namespace Tree

/-- A scalar ready to be written. -/
def ofScalar : Scalar → Except Fault Tree
  | .null => .ok (.raw "null")
  | .bool b => .ok (.raw (if b then "true" else "false"))
  | .int n => .raw <$> Decimal.integerText n
  | .float x => .ok (.raw (doubleText x))
  | .str s => .ok (.str s)
  | s => .str <$> s.text

mutual

/-- A value ready to be written. -/
def ofValue : Value → Except Fault Tree
  | .scalar s => ofScalar s
  | .list items => .arr <$> ofValues items
  | .tuple items => .arr <$> ofValues items
  | .set items => .str <$> (Value.set items).text
  | .map entries => .obj <$> ofEntries entries

/-- Values ready to be written. -/
def ofValues : List Value → Except Fault (List Tree)
  | [] => .ok []
  | v :: vs => do return (← ofValue v) :: (← ofValues vs)

/-- Entries ready to be written. -/
def ofEntries : List (Key × Value) → Except Fault (List (String × Tree))
  | [] => .ok []
  | (k, v) :: es => do
    let name ← memberName k
    let tree ← ofValue v
    return (name, tree) :: (← ofEntries es)

end

end Tree

end ApiLint.Json
