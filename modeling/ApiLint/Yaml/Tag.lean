import ApiLint.Json.Reader
import ApiLint.Yaml.Timestamp

/-!
# Tags

The tag of a node says what value the node stands for. A plain text without a tag gets one by its
form: `Tag.ofPlain` tries the forms one after the other, and what has none of them is a string.
-/

namespace ApiLint.Yaml

/-- What value a node stands for. -/
inductive Tag
  | null
  | bool
  | int
  | float
  | binary
  | timestamp
  | str
  | list
  | orderedMap
  | pairs
  | set
  | map
  /-- The key under which other mappings are merged in. -/
  | merge
  /-- The key under which a mapping keeps the text it stands for. -/
  | self
  /-- A tag that no value has. -/
  | unknown
deriving DecidableEq

namespace Tag

/-- How the tags of the language begin. -/
def lead : List Char := "tag:yaml.org,2002:".toList

/-- The names of tags, after their beginning. -/
def names : List (String × Tag) := [
  ("null", .null), ("bool", .bool), ("int", .int), ("float", .float), ("binary", .binary),
  ("timestamp", .timestamp), ("str", .str), ("seq", .list), ("omap", .orderedMap),
  ("pairs", .pairs), ("set", .set), ("map", .map), ("merge", .merge), ("value", .self)]

/-- The tag with a full name. -/
def ofName (name : List Char) : Tag :=
  match names.find? fun (n, _) => lead ++ n.toList == name with
  | some (_, tag) => tag
  | none => .unknown

-- ---------------------------------------------------------------------------
-- Forms of plain texts
-- ---------------------------------------------------------------------------

/-- The words for null. -/
def isNull (s : String) : Bool := ["", "~", "null", "Null", "NULL"].contains s

/-- The words for the truth values; all may be written in lower case, capitalised or in capitals. -/
def isBool (s : String) : Bool :=
  ["yes", "Yes", "YES", "no", "No", "NO", "true", "True", "TRUE", "false", "False", "FALSE",
    "on", "On", "ON", "off", "Off", "OFF"].contains s

/-- What follows an optional sign. -/
def dropSign : List Char → List Char
  | '-' :: rest => rest
  | '+' :: rest => rest
  | rest => rest

/-- A decimal digit or an underscore. -/
def isDigitOrMark (c : Char) : Bool := Decimal.isDigit c || c == '_'

/-- Whether these are one or more characters of a kind. -/
def isRun (p : Char → Bool) (s : List Char) : Bool := !s.isEmpty && s.all p

/-- What follows places to the base of sixty: a colon and one or two digits, once or more. -/
def dropSixties : (fuel : Nat) → List Char → Option (List Char)
  | 0, _ => none
  | fuel + 1, ':' :: a :: b :: rest =>
    if '0' ≤ a ∧ a ≤ '5' ∧ Decimal.isDigit b then some ((dropSixties fuel rest).getD rest)
    else if Decimal.isDigit a then some ((dropSixties fuel (b :: rest)).getD (b :: rest))
    else none
  | _ + 1, [':', a] => if Decimal.isDigit a then some [] else none
  | _ + 1, _ => none

/-- Whether a text is an integer: in base two, eight, ten, sixteen or sixty. -/
def isInt (s : List Char) : Bool :=
  match dropSign s with
  | ['0'] => true
  | '0' :: 'b' :: rest => isRun (fun c => c == '0' || c == '1' || c == '_') rest
  | '0' :: 'x' :: rest => isRun (fun c => (Json.hexValue? c).isSome || c == '_') rest
  | '0' :: rest => isRun (fun c => ('0' ≤ c && c ≤ '7') || c == '_') rest
  | c :: rest =>
    Decimal.isDigit c &&
      let rest := rest.dropWhile isDigitOrMark
      rest.isEmpty || dropSixties rest.length rest == some []
  | [] => false

/-- Whether these characters are an exponent, or nothing. -/
def isExponent : List Char → Bool
  | [] => true
  | e :: sign :: rest =>
    (e == 'e' || e == 'E') && (sign == '-' || sign == '+') && isRun Decimal.isDigit rest
  | _ => false

/-- Whether a text is a number with a point; its exponent needs a sign. -/
def isFloat (s : List Char) : Bool :=
  let body := dropSign s
  let signed := body.length < s.length
  match body with
  | '.' :: rest =>
    let word := String.ofList rest
    ["inf", "Inf", "INF"].contains word ||
      (!signed && (["nan", "NaN", "NAN"].contains word ||
        (rest.head?.any Decimal.isDigit && isExponent (rest.dropWhile isDigitOrMark))))
  | c :: rest =>
    Decimal.isDigit c &&
      match rest.dropWhile isDigitOrMark with
      | '.' :: rest => isExponent (rest.dropWhile isDigitOrMark)
      | rest => match dropSixties rest.length rest with
        | some ('.' :: rest) => rest.all isDigitOrMark
        | _ => false
  | [] => false

/-- Whether a text is a timestamp. -/
def isTimestamp (s : List Char) : Bool := (Timestamp.parse? s).any Timestamp.isImplicit

/-- The tag of a plain text by its form. A line break at the very end does not count, unless nothing
else is there. -/
def ofPlain (text : List Char) : Tag :=
  let s := if text.length ≠ 1 ∧ text.getLast? = some '\n' then text.dropLast else text
  let word := String.ofList s
  if isBool word then .bool
  else if isFloat s then .float
  else if isInt s then .int
  else if word = "<<" then .merge
  else if isNull word then .null
  else if isTimestamp s then .timestamp
  else if word = "=" then .self
  else if word = "!" ∨ word = "&" ∨ word = "*" then .unknown
  else .str

end Tag

end ApiLint.Yaml
