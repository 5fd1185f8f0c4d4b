import ApiLint.Yaml.Token
import ApiLint.Json.Reader

/-!
# Texts in a YAML document

The three ways to write a text: plain, between quotes, and as an indented block. In each of them a
line break inside the text is folded to a blank unless blank lines follow it, which stay as line
breaks; only a literal block keeps every line.
-/

namespace ApiLint.Yaml

/-- The line breaks that a text keeps when it is folded at a line break with blank lines after
it. -/
def foldBreak (first : Char) (more : List Char) : List Char :=
  if first ≠ '\n' then first :: more
  else if more.isEmpty then [' ']
  else more

-- ---------------------------------------------------------------------------
-- Plain texts
-- ---------------------------------------------------------------------------

/-- What ends a word after a colon: in a flow collection also its punctuation. -/
def endsColon (inFlow : Bool) (c : Option Char) : Bool :=
  endsWord c || (inFlow && c.any fun c => [',', '[', ']', '\x7b', '\x7d'].contains c)

/-- Whether a plain text breaks off before a character. -/
def breaksPlain (inFlow : Bool) (c : Char) (rest : List Char) : Bool :=
  isBlank c || isBreak c || (c == ':' && endsColon inFlow rest.head?) ||
    (inFlow && [',', '?', '[', ']', '\x7b', '\x7d'].contains c)

/-- The characters of a plain text up to where it breaks off. -/
def plainRun (inFlow : Bool) : List Char → List Char
  | [] => []
  | c :: rest => if breaksPlain inFlow c rest then [] else c :: plainRun inFlow rest

/-- Further line breaks and blanks between the lines of a plain text, up to a mark of the document:
the breaks, or nothing at a mark. -/
def plainBreaks : (fuel : Nat) → Cursor → Option (List Char) × Cursor
  | 0, c => (some [], c)
  | fuel + 1, c =>
    if c.peek = some ' ' then plainBreaks fuel c.next
    else match c.lineBreak? with
      | none => (some [], c)
      | some (b, c) =>
        if c.isDocumentMark then (none, c)
        else match plainBreaks fuel c with
          | (some bs, c) => (some (b :: bs), c)
          | (none, c) => (none, c)

/-- What separates a part of a plain text from the next one: the text it stands for, the place after
it, and whether a line ended. Where the text cannot go on, the text is empty. -/
def plainGap (c : Cursor) : List Char × Cursor × Bool :=
  let (blanks, c) := c.takeWhile (· == ' ')
  match c.lineBreak? with
  | none => (blanks, c, false)
  | some (b, c) =>
    if c.isDocumentMark then ([], c, true)
    else match plainBreaks (c.left + 1) c with
      | (some bs, c) => (foldBreak b bs, c, true)
      | (none, c) => ([], c, true)

/-- The parts of a plain text from a place on, each after the gap before it. `indent` is the column
that continued lines have to reach outside of flow collections. The last component says whether
the last gap ended a line. -/
def plainParts (inFlow : Bool) (indent : Int) :
    (fuel : Nat) → (gap : List Char) → (broke : Bool) → Cursor → List Char × Cursor × Bool
  | 0, _, broke, c => ([], c, broke)
  | fuel + 1, gap, broke, c =>
    let run := plainRun inFlow c.rest
    if c.peek = some '#' ∨ run.isEmpty then ([], c, broke)
    else
      let (gap', c, broke) := plainGap (c.skip run.length)
      if gap'.isEmpty ∨ c.peek = some '#' ∨ (!inFlow ∧ c.column < indent) then
        (gap ++ run, c, broke)
      else
        let (more, c, broke) := plainParts inFlow indent fuel gap' broke c
        (gap ++ run ++ more, c, broke)

/-- A plain text, the place after it, and whether the last thing skipped was a line break. -/
def plainText (inFlow : Bool) (indent : Int) (c : Cursor) : List Char × Cursor × Bool :=
  plainParts inFlow indent (c.left + 1) [] false c

-- ---------------------------------------------------------------------------
-- Quoted texts
-- ---------------------------------------------------------------------------

/-- The character that a backslash and a letter stand for. -/
def shortEscape? : Char → Option Char
  | '0' => some '\x00'
  | 'a' => some '\x07'
  | 'b' => some '\x08'
  | 't' => some '\t'
  | '\t' => some '\t'
  | 'n' => some '\n'
  | 'v' => some '\x0b'
  | 'f' => some '\x0c'
  | 'r' => some '\r'
  | 'e' => some '\x1b'
  | ' ' => some ' '
  | '"' => some '"'
  | '\\' => some '\\'
  | '/' => some '/'
  | 'N' => some '\u0085'
  | '_' => some '\u00a0'
  | 'L' => some '\u2028'
  | 'P' => some '\u2029'
  | _ => none

/-- The number of digits of an escape by code point. -/
def codeLength? : Char → Option Nat
  | 'x' => some 2
  | 'u' => some 4
  | 'U' => some 8
  | _ => none

/-- The number that digits of base sixteen spell. -/
def hexNumber? (cs : List Char) : Option Nat :=
  cs.foldlM (fun n c => (Json.hexValue? c).map fun d => 16 * n + d) 0

/-- Blanks and line breaks between the lines of a quoted text: the line breaks. A mark of the
document at the start of a line ends the document inside the text. -/
def quotedBreaks : (fuel : Nat) → Cursor → Except ReadError (List Char × Cursor)
  | 0, c => .ok ([], c)
  | fuel + 1, c => do
    if c.isDocumentMark then throw .malformed
    match (c.skipWhile isBlank).lineBreak? with
    | none => return ([], c.skipWhile isBlank)
    | some (b, c) =>
      let (bs, c) ← quotedBreaks fuel c
      return (b :: bs, c)

/-- What an escape stands for, from the character after its backslash on. -/
def quotedEscape (c : Cursor) : Except ReadError (List Char × Cursor) :=
  match c.peek with
  | none => .error .malformed
  | some e =>
    match shortEscape? e with
    | some x => .ok ([x], c.next)
    | none =>
      match codeLength? e with
      | some n =>
        let digits := c.next.rest.take n
        match if digits.length = n then hexNumber? digits else none with
        | none => .error .malformed
        | some code =>
          if code < 0x110000 then .ok ([(ApiLint.Text.CodePoint.ofNat code).shown], c.next.skip n)
          else .error (.conversion .notCodePoint)
      | none =>
        match c.lineBreak? with
        | some (_, c) => quotedBreaks (c.left + 1) c
        | none => .error .malformed

/-- A quoted text from a place inside it up to and with the closing quote. -/
def quotedRest (double : Bool) : (fuel : Nat) → Cursor → Except ReadError (List Char × Cursor)
  | 0, _ => .error .malformed
  | fuel + 1, c =>
    let go (part : List Char) (c : Cursor) : Except ReadError (List Char × Cursor) := do
      let (more, c) ← quotedRest double fuel c
      return (part ++ more, c)
    match c.rest with
    | [] => .error .malformed
    | '\'' :: rest =>
      if double then go ['\''] c.next
      else if rest.head? = some '\'' then go ['\''] (c.skip 2)
      else .ok ([], c.next)
    | '"' :: _ => if double then .ok ([], c.next) else go ['"'] c.next
    | '\\' :: _ =>
      if double then do
        let (part, c) ← quotedEscape c.next
        go part c
      else go ['\\'] c.next
    | x :: _ =>
      if isBlank x || isBreak x then do
        let (blanks, c) := c.takeWhile isBlank
        match c.lineBreak? with
        | none => go blanks c
        | some (b, c) =>
          let (bs, c) ← quotedBreaks (c.left + 1) c
          go (foldBreak b bs) c
      else
        let (run, c) := c.takeWhile fun x =>
          !(x == '\'' || x == '"' || x == '\\' || isBlank x || isBreak x)
        go run c

/-- A quoted text, from its opening quote on. -/
def quotedText (double : Bool) (c : Cursor) : Except ReadError (List Char × Cursor) :=
  quotedRest double (c.left + 1) c.next

-- ---------------------------------------------------------------------------
-- Blocks
-- ---------------------------------------------------------------------------

/-- What becomes of the line breaks at the end of a block. -/
inductive Chomping
  | strip
  | clip
  | keep
deriving DecidableEq

/-- The sign for what becomes of the line breaks at the end. -/
def chomping? : Option Char → Option Chomping
  | some '+' => some .keep
  | some '-' => some .strip
  | _ => none

/-- The digit that says how far a block is indented. -/
def increment? (c : Option Char) : Option Nat := do
  let c ← c
  if c.isDigit then some (c.toNat - '0'.toNat) else none

/-- The signs after the mark of a block, in either order, and the place after them. -/
def blockHeader (c : Cursor) : Except ReadError (Chomping × Option Nat × Cursor) := do
  let (chomping, increment, c) := match chomping? c.peek with
    | some chomping => match increment? c.next.peek with
      | some n => (chomping, some n, c.skip 2)
      | none => (chomping, none, c.next)
    | none => match increment? c.peek with
      | some n => match chomping? c.next.peek with
        | some chomping => (chomping, some n, c.skip 2)
        | none => (.clip, some n, c.next)
      | none => (.clip, none, c)
  if increment = some 0 then throw .malformed
  if !endsProperty c.peek then throw .malformed
  let c := c.skipComment
  if !endsLine c.peek then throw .malformed
  return (chomping, increment, c.skipBreak)

/-- The blank lines before a block without a stated indentation: their line breaks, the widest
indentation among them, and the place after them. -/
def leadingLines : (fuel : Nat) → (widest : Nat) → Cursor → List Char × Nat × Cursor
  | 0, widest, c => ([], widest, c)
  | fuel + 1, widest, c =>
    if c.peek = some ' ' then leadingLines fuel (max widest c.next.column) c.next
    else match c.lineBreak? with
      | none => ([], widest, c)
      | some (b, c) =>
        let (bs, widest, c) := leadingLines fuel widest c
        (b :: bs, widest, c)

/-- The place after the indentation of a line, as far as it goes. -/
def skipIndent (indent : Nat) (c : Cursor) : Cursor :=
  c.skip ((c.rest.take (indent - c.column)).takeWhile (· == ' ')).length

/-- The blank lines between the lines of a block: their line breaks and the place after the
indentation that follows. -/
def blankLines (indent : Nat) : (fuel : Nat) → Cursor → List Char × Cursor
  | 0, c => ([], c)
  | fuel + 1, c =>
    let c := skipIndent indent c
    match c.lineBreak? with
    | none => ([], c)
    | some (b, c) =>
      let (bs, c) := blankLines indent fuel c
      (b :: bs, c)

/-- The text of a line break, which may be missing at the end of a text. -/
def breakText (b : Option (Char × Cursor)) : List Char := (b.map (·.1)).toList

/-- The lines of a block from a place on. `breaks` are the blank lines before it. The text ends with
the last line; its line break and the blank lines after it are returned beside it. -/
def blockLines (folded : Bool) (indent : Nat) :
    (fuel : Nat) → (breaks : List Char) → Cursor → List Char × List Char × List Char × Cursor
  | 0, breaks, c => ([], [], breaks, c)
  | fuel + 1, breaks, c =>
    let startsBlank (c : Cursor) : Bool := c.peek.any isBlank
    let (line, after) := c.takeWhile fun x => !isBreak x
    let lineEnd := after.lineBreak?
    let b := breakText lineEnd
    let (breaks', after) := blankLines indent (after.left + 1) after.skipBreak
    let text := breaks ++ line
    if after.column = indent ∧ after.peek.isSome then
      let joint :=
        if folded && b == ['\n'] && !startsBlank c && !startsBlank after then
          if breaks'.isEmpty then [' '] else []
        else b
      let (more, b, breaks, c) := blockLines folded indent fuel breaks' after
      (text ++ joint ++ more, b, breaks, c)
    else (text, b, breaks', after)

/-- A block, from its mark on. `indent` is the indentation of the node that holds it. -/
def blockText (folded : Bool) (indent : Int) (c : Cursor) :
    Except ReadError (List Char × Cursor) := do
  let (chomping, increment, c) ← blockHeader c.next
  let least := (max (indent + 1) 1).toNat
  let (column, breaks, c) := match increment with
    | some n =>
      let column := least + n - 1
      let (breaks, c) := blankLines column (c.left + 1) c
      (column, breaks, c)
    | none =>
      let (breaks, widest, c) := leadingLines (c.left + 1) 0 c
      (max least widest, breaks, c)
  let (text, b, breaks, c) :=
    if c.column = column ∧ c.peek.isSome then blockLines folded column (c.left + 1) breaks c
    else ([], [], breaks, c)
  let tail := match chomping with
    | .strip => []
    | .clip => b
    | .keep => b ++ breaks
  return (text ++ tail, c)

end ApiLint.Yaml
