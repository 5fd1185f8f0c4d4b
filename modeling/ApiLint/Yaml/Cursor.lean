import ApiLint.Fault

/-!
# Characters and places of a YAML text

* `isPrintable` says which characters a text may consist of at all;
* `Cursor` is a place in a text: what remains and how much, and the line and column that decide
  about indentation and about the keys of mappings.
-/

namespace ApiLint.Yaml

/-- Why a text yields no value: it is not well-formed, or a conversion failed. -/
inductive ReadError
  | malformed
  | conversion (fault : Fault)
deriving DecidableEq

-- ---------------------------------------------------------------------------
-- Characters
-- ---------------------------------------------------------------------------

/-- The characters that a text may consist of. -/
def isPrintable (c : Char) : Bool :=
  let n := c.toNat
  n == 0x9 || n == 0xa || n == 0xd || (0x20 ≤ n && n ≤ 0x7e) || n == 0x85 ||
    (0xa0 ≤ n && n ≤ 0xfffd) || 0x10000 ≤ n

/-- The characters that end a line. -/
def isBreak (c : Char) : Bool :=
  c == '\n' || c == '\r' || c == '\u0085' || c == '\u2028' || c == '\u2029'

/-- Blank and tab. -/
def isBlank (c : Char) : Bool := c == ' ' || c == '\t'

/-- The letters, digits and marks of names. -/
def isWordChar (c : Char) : Bool := c.isAlphanum || c == '-' || c == '_'

/-- Whether a line ends here: at a line break or the end of the text. -/
def endsLine (c : Option Char) : Bool := c.all isBreak

/-- Whether a word ends here: at a blank, a tab or the end of a line. -/
def endsWord (c : Option Char) : Bool := c.all fun c => isBlank c || isBreak c

/-- Whether a property ends here: at a blank or the end of a line. -/
def endsProperty (c : Option Char) : Bool := c.all fun c => c == ' ' || isBreak c

-- ---------------------------------------------------------------------------
-- Places
-- ---------------------------------------------------------------------------

/-- A place in a text. -/
structure Cursor where
  rest : List Char
  /-- The number of remaining characters. -/
  left : Nat
  line : Nat
  column : Nat

namespace Cursor

/-- The start of a text. -/
def start (text : List Char) : Cursor := ⟨text, text.length, 0, 0⟩

/-- The next character. -/
def peek (c : Cursor) : Option Char := c.rest.head?

/-- The character after some others. -/
def peekAt (c : Cursor) (n : Nat) : Option Char := (c.rest.drop n).head?

/-- The place after the next character. The two characters of a line end count as one line, and a
byte order mark takes no column. -/
def next (c : Cursor) : Cursor :=
  match c.rest with
  | [] => c
  | x :: rest =>
    if isBreak x && !(x == '\r' && rest.head? == some '\n') then
      ⟨rest, c.left - 1, c.line + 1, 0⟩
    else if x == '\ufeff' then ⟨rest, c.left - 1, c.line, c.column⟩
    else ⟨rest, c.left - 1, c.line, c.column + 1⟩

/-- The place after some characters. -/
def skip (c : Cursor) : Nat → Cursor
  | 0 => c
  | n + 1 => c.next.skip n

/-- The longest run of characters of a kind, and the place after it. -/
def takeWhile (c : Cursor) (p : Char → Bool) : List Char × Cursor :=
  let run := c.rest.takeWhile p
  (run, c.skip run.length)

/-- The place after the longest run of characters of a kind. -/
def skipWhile (c : Cursor) (p : Char → Bool) : Cursor := (c.takeWhile p).2

/-- The place at the end of the line. -/
def skipLine (c : Cursor) : Cursor := c.skipWhile fun x => !isBreak x

/-- The place after blanks and a comment. -/
def skipComment (c : Cursor) : Cursor :=
  let c := c.skipWhile (· == ' ')
  if c.peek = some '#' then c.skipLine else c

/-- The line break at a place, as it counts in a text, and the place after it. -/
def lineBreak? (c : Cursor) : Option (Char × Cursor) :=
  match c.rest with
  | '\r' :: '\n' :: _ => some ('\n', c.skip 2)
  | x :: _ =>
    if x == '\u2028' || x == '\u2029' then some (x, c.next)
    else if isBreak x then some ('\n', c.next)
    else none
  | [] => none

/-- The place after a line break, if there is one. -/
def skipBreak (c : Cursor) : Cursor :=
  match c.lineBreak? with
  | some (_, c) => c
  | none => c

/-- Whether three characters that mark the start or end of a document stand here as a word. -/
def isMark (c : Cursor) (mark : Char) : Bool :=
  c.rest.take 3 == [mark, mark, mark] && endsWord (c.peekAt 3)

/-- Whether a document starts or ends here, if this is the start of a line. -/
def isDocumentMark (c : Cursor) : Bool := c.isMark '-' || c.isMark '.'

end Cursor

end ApiLint.Yaml
