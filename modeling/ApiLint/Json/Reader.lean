import ApiLint.Text.CodePoint
import ApiLint.Value

/-!
# Reading JSON

A reader over the characters that remain. A text that is not JSON is refused with the problem and
the rest of the text from the place where the problem is reported; `Position.of` turns that rest
into a line and a column.

* `Json.read` reads a whole text, and `Json.names` says how the members of an object are named;
* `ReadError.malformed` is a text that is not JSON, `ReadError.conversion` an integer that is too
  long to be converted;
* objects become mappings in which a repeated name keeps its first place and its last value.

Strings are lists of code points while they are read, since half of a surrogate pair may stand alone
in them.
-/

namespace ApiLint.Json

open Text (CodePoint)

/-- What is wrong with a text that is not JSON. -/
inductive Problem
  | value
  | propertyName
  | colon
  | comma
  | extraData
  | unterminatedString
  | controlCharacter
  | escape
  | unicodeEscape
  | byteOrderMark
deriving DecidableEq

namespace Problem

/-- The wording of a problem. -/
def text : Problem → String
  | .value => "Expecting value"
  | .propertyName => "Expecting property name enclosed in double quotes"
  | .colon => "Expecting ':' delimiter"
  | .comma => "Expecting ',' delimiter"
  | .extraData => "Extra data"
  | .unterminatedString => "Unterminated string starting at"
  | .controlCharacter => "Invalid control character at"
  | .escape => "Invalid \\escape"
  | .unicodeEscape => "Invalid \\uXXXX escape"
  | .byteOrderMark => "Unexpected UTF-8 BOM (decode using utf-8-sig)"

end Problem

/-- Why reading failed. -/
inductive ReadError
  /-- The text is not JSON; the problem is reported where `rest` begins. -/
  | malformed (problem : Problem) (rest : List Char)
  /-- A number cannot be converted. -/
  | conversion (fault : Fault)
deriving DecidableEq

-- ---------------------------------------------------------------------------
-- Blanks and strings
-- ---------------------------------------------------------------------------

/-- The characters that may stand between tokens. -/
def isSpace (c : Char) : Bool := c == ' ' || c == '\t' || c == '\n' || c == '\r'

/-- What follows the blanks at the start. -/
def skipSpace (s : List Char) : List Char := s.dropWhile isSpace

/-- The value of a digit of base sixteen. -/
def hexValue? (c : Char) : Option Nat :=
  if '0' ≤ c ∧ c ≤ '9' then some (c.toNat - '0'.toNat)
  else if 'a' ≤ c ∧ c ≤ 'f' then some (c.toNat - 'a'.toNat + 10)
  else if 'A' ≤ c ∧ c ≤ 'F' then some (c.toNat - 'A'.toNat + 10)
  else none

/-- The number that the first four characters spell in base sixteen. -/
def hexCode? (s : List Char) : Option Nat :=
  match s with
  | a :: b :: c :: d :: _ => do
    return (((← hexValue? a) * 16 + (← hexValue? b)) * 16 + (← hexValue? c)) * 16 + (← hexValue? d)
  | _ => none

/-- The character that a backslash and a letter stand for. -/
def shortEscape? : Char → Option Char
  | '"' => some '"'
  | '\\' => some '\\'
  | '/' => some '/'
  | 'b' => some '\x08'
  | 'f' => some '\x0c'
  | 'n' => some '\n'
  | 'r' => some '\r'
  | 't' => some '\t'
  | _ => none

/-- Whether a number is the first half of a surrogate pair. -/
def isHighSurrogate (n : Nat) : Bool := 0xd800 ≤ n && n ≤ 0xdbff

/-- Whether a number is the second half of a surrogate pair. -/
def isLowSurrogate (n : Nat) : Bool := 0xdc00 ≤ n && n ≤ 0xdfff

/-- The code point of an escape, from the `u` on. Two escapes that form a surrogate pair are one
character; the second is looked at only if a character follows it. -/
def unicodeEscape (s : List Char) : Except ReadError (CodePoint × List Char) :=
  let digits := s.drop 1
  match if digits.length < 5 then none else hexCode? digits with
  | none => .error (.malformed .unicodeEscape s)
  | some high =>
    let rest := digits.drop 4
    if isHighSurrogate high && 7 ≤ rest.length && rest.take 2 == ['\\', 'u'] then
      match hexCode? (rest.drop 2) with
      | none => .error (.malformed .unicodeEscape (rest.drop 1))
      | some low =>
        if isLowSurrogate low then
          .ok (.char (Char.ofNat (0x10000 + (high - 0xd800) * 0x400 + (low - 0xdc00))),
            rest.drop 6)
        else .ok (.ofNat high, rest)
    else .ok (.ofNat high, rest)

/-- The code points of a string up to its closing quote. `opening` is the text from the opening
quote on. -/
def stringTail (opening : List Char) :
    (fuel : Nat) → List Char → Except ReadError (List CodePoint × List Char)
  | _, [] => .error (.malformed .unterminatedString opening)
  | 0, _ => .error (.malformed .unterminatedString opening)
  | _ + 1, '"' :: rest => .ok ([], rest)
  | _ + 1, ['\\'] => .error (.malformed .unterminatedString opening)
  | fuel + 1, '\\' :: 'u' :: rest => do
    let (p, rest) ← unicodeEscape ('u' :: rest)
    let (ps, rest) ← stringTail opening fuel rest
    return (p :: ps, rest)
  | fuel + 1, '\\' :: e :: rest =>
    match shortEscape? e with
    | none => .error (.malformed .escape ('\\' :: e :: rest))
    | some c => do
      let (ps, rest) ← stringTail opening fuel rest
      return (.char c :: ps, rest)
  | fuel + 1, c :: rest =>
    if c.toNat < 0x20 then .error (.malformed .controlCharacter (c :: rest))
    else do
      let (ps, rest) ← stringTail opening fuel rest
      return (.char c :: ps, rest)

/-- A string, from the character after its opening quote on. -/
def string (rest : List Char) : Except ReadError (List CodePoint × List Char) :=
  stringTail ('"' :: rest) rest.length rest

-- ---------------------------------------------------------------------------
-- Numbers and words
-- ---------------------------------------------------------------------------

/-- The longest run of digits at the start, and what follows it. -/
def digitRun (s : List Char) : List Char × List Char :=
  (s.takeWhile Decimal.isDigit, s.dropWhile Decimal.isDigit)

/-- The digits of a whole part: a single zero, or a run that does not start with one. -/
def wholePart (s : List Char) : List Char × List Char :=
  match s with
  | '0' :: rest => (['0'], rest)
  | s => digitRun s

/-- The digits after a point, if there are any. -/
def fractionPart (s : List Char) : List Char × List Char :=
  match s with
  | '.' :: rest => match digitRun rest with
    | ([], _) => ([], s)
    | (ds, rest) => (ds, rest)
  | s => ([], s)

/-- The exponent of a number, if one follows. -/
def exponentPart (s : List Char) : Option Int × List Char :=
  let signed (negative : Bool) (rest : List Char) : Option Int × List Char :=
    match digitRun rest with
    | ([], _) => (none, s)
    | (ds, rest) =>
      let n : Int := Decimal.value ds
      (some (if negative then -n else n), rest)
  let afterMark (rest : List Char) : Option Int × List Char :=
    match rest with
    | '-' :: rest => signed true rest
    | '+' :: rest => signed false rest
    | rest => signed false rest
  match s with
  | 'e' :: rest => afterMark rest
  | 'E' :: rest => afterMark rest
  | s => (none, s)

/-- A number, as far as one reaches from the start. One with a fraction or an exponent is a double,
any other an integer. -/
def number (s : List Char) : Except ReadError (Value × List Char) :=
  let (negative, body) := match s with
    | '-' :: rest => (true, rest)
    | rest => (false, rest)
  match wholePart body with
  | ([], _) => .error (.malformed .value s)
  | (whole, rest) =>
    let (fraction, rest) := fractionPart rest
    let (exponent, rest) := exponentPart rest
    if fraction.isEmpty && exponent.isNone then
      match Decimal.numeral whole with
      | .error fault => .error (.conversion fault)
      | .ok n => .ok (.int (if negative then -(n : Int) else n), rest)
    else
      let coefficient := Decimal.value (whole ++ fraction)
      let power := exponent.getD 0 - fraction.length
      .ok (.float (Binary64.ofDecimal negative coefficient power), rest)

/-- The words that are values. -/
def words : List (String × Value) := [
  ("null", .null), ("true", .bool true), ("false", .bool false), ("NaN", .float .nan),
  ("Infinity", .float (.infinity false)), ("-Infinity", .float (.infinity true))]

/-- A word or a number. -/
def wordOrNumber (s : List Char) : Except ReadError (Value × List Char) :=
  match words.find? fun (word, _) => word.toList.isPrefixOf s with
  | some (word, v) => .ok (v, s.drop word.length)
  | none => number s

-- ---------------------------------------------------------------------------
-- Values
-- ---------------------------------------------------------------------------

/-- The mapping of the members of an object. -/
def object (members : List (List CodePoint × Value)) : Entries :=
  .ofPairs (members.map fun (name, v) => (.str (CodePoint.text name), v))

mutual

/-- A value at the start of a text. -/
def value : (fuel : Nat) → List Char → Except ReadError (Value × List Char)
  | 0, s => .error (.malformed .value s)
  | fuel + 1, s =>
    match s with
    | [] => .error (.malformed .value [])
    | '"' :: rest => do
      let (ps, rest) ← string rest
      return (.str (CodePoint.text ps), rest)
    | '[' :: rest =>
      match skipSpace rest with
      | ']' :: rest => .ok (.list [], rest)
      | rest => do
        let (items, rest) ← items fuel rest
        return (.list items, rest)
    | '\x7b' :: rest =>
      match skipSpace rest with
      | '\x7d' :: rest => .ok (.map [], rest)
      | rest => do
        let (pairs, rest) ← members fuel rest
        return (.map (object pairs), rest)
    | s => wordOrNumber s

/-- The items of an array, up to and with its closing bracket. -/
def items : (fuel : Nat) → List Char → Except ReadError (List Value × List Char)
  | 0, s => .error (.malformed .value s)
  | fuel + 1, s => do
    let (v, rest) ← value fuel s
    match skipSpace rest with
    | ']' :: rest => return ([v], rest)
    | ',' :: rest =>
      let (vs, rest) ← items fuel (skipSpace rest)
      return (v :: vs, rest)
    | rest => throw (.malformed .comma rest)

/-- The members of an object, up to and with its closing brace. -/
def members :
    (fuel : Nat) → List Char → Except ReadError (List (List CodePoint × Value) × List Char)
  | 0, s => .error (.malformed .propertyName s)
  | fuel + 1, s => do
    match s with
    | '"' :: rest =>
      let (name, rest) ← string rest
      match skipSpace rest with
      | ':' :: rest =>
        let (v, rest) ← value fuel (skipSpace rest)
        match skipSpace rest with
        | '\x7d' :: rest => return ([(name, v)], rest)
        | ',' :: rest =>
          let (ms, rest) ← members fuel (skipSpace rest)
          return ((name, v) :: ms, rest)
        | rest => throw (.malformed .comma rest)
      | rest => throw (.malformed .colon rest)
    | s => throw (.malformed .propertyName s)

end

/-- The value of a whole text. No character begins more than two levels of the reading: an array or
object, and its items or members. -/
def readChars (s : List Char) : Except ReadError Value := do
  if s.head? = some '\ufeff' then throw (.malformed .byteOrderMark s)
  let (v, rest) ← value (2 * (s.length + 1)) (skipSpace s)
  match skipSpace rest with
  | [] => return v
  | rest => throw (.malformed .extraData rest)

/-- The value of a whole text. -/
def read (text : String) : Except ReadError Value := readChars text.toList

/-- How the members of the object that a text is are named, one by one. A text that is no object has
none. -/
def names (text : String) : List (List CodePoint) :=
  match skipSpace text.toList with
  | '\x7b' :: rest => match members (2 * text.length + 1) (skipSpace rest) with
    | .ok (pairs, _) => pairs.map (·.1)
    | .error _ => []
  | _ => []

-- ---------------------------------------------------------------------------
-- Positions
-- ---------------------------------------------------------------------------

/-- A place in a text, counted in characters: the line and the column from one, the offset from
zero. -/
structure Position where
  line : Nat
  column : Nat
  offset : Nat
deriving DecidableEq

namespace Position

/-- The place after some characters. Lines end at line feeds alone. -/
def after (before : List Char) : Position where
  line := before.count '\n' + 1
  column := (before.reverse.takeWhile (· != '\n')).length + 1
  offset := before.length

/-- Where the rest of a text begins. -/
def of (whole rest : List Char) : Position :=
  after (whole.take (whole.length - rest.length))

/-- Line, column and offset in words. -/
def text (p : Position) : String :=
  "line " ++ Decimal.ofNat p.line ++ " column " ++ Decimal.ofNat p.column ++
    " (char " ++ Decimal.ofNat p.offset ++ ")"

end Position

/-- A problem with the place where it is reported. -/
def complaint (whole : String) (problem : Problem) (rest : List Char) : String :=
  problem.text ++ ": " ++ (Position.of whole.toList rest).text

end ApiLint.Json
