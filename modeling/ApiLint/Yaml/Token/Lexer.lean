import ApiLint.Yaml.Token.Property

/-!
# Tokens of a text

`Token.ofText` takes a text apart. Whether a word is the key of a mapping shows only when a colon
follows it, so the lexer remembers where a key may have begun and marks it afterwards; such a key
stays on one line and has at most 1024 characters. Outside of flow collections the column of a
token opens and closes blocks.
-/

namespace ApiLint.Yaml

/-- A place where a key may have begun. -/
structure PendingKey where
  /-- How many tokens stand before it. -/
  index : Nat
  /-- Whether the text is not well-formed unless a colon follows. -/
  required : Bool
  cursor : Cursor

/-- The lexer between two tokens. -/
structure Lexer where
  cursor : Cursor
  tokens : Array Token
  /-- The pending key of the innermost flow collection, or outside of all of them. -/
  key : Option PendingKey
  /-- The pending keys around it; there is one for each open flow collection. -/
  outerKeys : List (Option PendingKey)
  /-- The column of the innermost block, and those of the blocks around it. -/
  indent : Int
  outerIndents : List Int
  /-- Whether a key may begin here. -/
  keyAllowed : Bool

namespace Lexer

/-- The largest number of characters of a key that is not marked as one. -/
def keyLimit : Nat := 1024

/-- The lexer at the start of a text. -/
def start (text : List Char) : Lexer where
  cursor :=
    let c := Cursor.start text
    if c.peek = some '\ufeff' then c.next else c
  tokens := #[]
  key := none
  outerKeys := []
  indent := -1
  outerIndents := []
  keyAllowed := true

/-- Whether a flow collection is open. -/
def inFlow (s : Lexer) : Bool := !s.outerKeys.isEmpty

/-- Adds a token. -/
def push (s : Lexer) (t : Token) : Lexer := { s with tokens := s.tokens.push t }

/-- Adds a token that some characters make up. -/
def pushFor (s : Lexer) (t : Token) (length : Nat) : Lexer :=
  { s with tokens := s.tokens.push t, cursor := s.cursor.skip length }

-- ---------------------------------------------------------------------------
-- Blanks, keys and blocks
-- ---------------------------------------------------------------------------

/-- The lexer after blanks, comments and line breaks. A new line may begin with a key. -/
def skipBlank : (fuel : Nat) → Lexer → Lexer
  | 0, s => s
  | fuel + 1, s =>
    let c := s.cursor.skipComment
    match c.lineBreak? with
    | none => { s with cursor := c }
    | some (_, c) =>
      skipBlank fuel { s with cursor := c, keyAllowed := s.keyAllowed || !s.inFlow }

/-- A pending key, unless it can be one no longer. -/
def fresh (c : Cursor) : Option PendingKey → Except ReadError (Option PendingKey)
  | none => .ok none
  | some k =>
    if k.cursor.line = c.line ∧ k.cursor.left - c.left ≤ keyLimit then .ok (some k)
    else if k.required then .error .malformed
    else .ok none

/-- Gives up the pending keys that can be keys no longer. -/
def dropStale (s : Lexer) : Except ReadError Lexer := do
  let key ← fresh s.cursor s.key
  let outerKeys ← s.outerKeys.mapM (fresh s.cursor)
  return { s with key, outerKeys }

/-- Gives up the pending key of the innermost collection. -/
def dropKey (s : Lexer) : Except ReadError Lexer :=
  match s.key with
  | some k => if k.required then .error .malformed else .ok { s with key := none }
  | none => .ok s

/-- Remembers that a key may begin here. -/
def markKey (s : Lexer) : Except ReadError Lexer := do
  if !s.keyAllowed then return s
  let required := !s.inFlow && s.indent == s.cursor.column
  let s ← s.dropKey
  return { s with key := some ⟨s.tokens.size, required, s.cursor⟩ }

/-- Closes the blocks to the right of a column. -/
def closeBlocks (column : Int) (s : Lexer) : Lexer :=
  if s.inFlow then s
  else
    let rec go (indent : Int) (tokens : Array Token) : List Int → Int × List Int × Array Token
      | [] => (indent, [], tokens)
      | outer :: rest =>
        if column < indent then go outer (tokens.push .blockEnd) rest
        else (indent, outer :: rest, tokens)
    let (indent, outerIndents, tokens) := go s.indent s.tokens s.outerIndents
    { s with indent, outerIndents, tokens }

/-- Opens a block at a column, unless one is open there, with its start before the token at an
index. -/
def openBlock (s : Lexer) (column : Nat) (t : Token) (index : Nat) : Lexer :=
  if s.indent < column then
    { s with
      indent := column
      outerIndents := s.indent :: s.outerIndents
      tokens := s.tokens.insertIdxIfInBounds index t }
  else s

/-- Opens a block at this place. -/
def openBlockHere (s : Lexer) (t : Token) : Lexer :=
  s.openBlock s.cursor.column t s.tokens.size

-- ---------------------------------------------------------------------------
-- Single tokens
-- ---------------------------------------------------------------------------

/-- The end of all blocks, before a directive, a mark of the document or the end of the text. -/
def leaveBlocks (s : Lexer) : Except ReadError Lexer := do
  let s ← (s.closeBlocks (-1)).dropKey
  return { s with keyAllowed := false }

/-- The start of a flow collection. -/
def openFlow (s : Lexer) (t : Token) : Except ReadError Lexer := do
  let s ← s.markKey
  return { s.pushFor t 1 with key := none, outerKeys := s.key :: s.outerKeys, keyAllowed := true }

/-- The end of a flow collection. -/
def closeFlow (s : Lexer) (t : Token) : Except ReadError Lexer := do
  let s ← s.dropKey
  match s.outerKeys with
  | [] => throw .malformed
  | key :: outerKeys => return { s.pushFor t 1 with key, outerKeys, keyAllowed := false }

/-- The comma of a flow collection. -/
def flowEntry (s : Lexer) : Except ReadError Lexer := do
  let s ← s.dropKey
  return { s.pushFor .flowEntry 1 with keyAllowed := true }

/-- The hyphen of a block sequence. -/
def blockEntry (s : Lexer) : Except ReadError Lexer := do
  if !s.inFlow && !s.keyAllowed then throw .malformed
  let s := if s.inFlow then s else s.openBlockHere .blockSequence
  let s ← s.dropKey
  return { s.pushFor .blockEntry 1 with keyAllowed := true }

/-- The question mark before a key. -/
def keyMark (s : Lexer) : Except ReadError Lexer := do
  if !s.inFlow && !s.keyAllowed then throw .malformed
  let s := if s.inFlow then s else s.openBlockHere .blockMapping
  let s ← s.dropKey
  return { s.pushFor .key 1 with keyAllowed := !s.inFlow }

/-- The colon before a value. A pending key becomes a key. -/
def valueMark (s : Lexer) : Except ReadError Lexer := do
  match s.key with
  | some k =>
    let s := { s with key := none, tokens := s.tokens.insertIdxIfInBounds k.index .key }
    let s := if s.inFlow then s else s.openBlock k.cursor.column .blockMapping k.index
    return { s.pushFor .value 1 with keyAllowed := false }
  | none =>
    if !s.inFlow && !s.keyAllowed then throw .malformed
    let s := if s.inFlow then s else s.openBlockHere .blockMapping
    return { s.pushFor .value 1 with keyAllowed := !s.inFlow }

/-- A token that may begin a key. -/
def keyPart (s : Lexer) (read : Cursor → Except ReadError (Token × Cursor)) :
    Except ReadError Lexer := do
  let s ← s.markKey
  let (t, c) ← read s.cursor
  return { s.push t with cursor := c, keyAllowed := false }

/-- A block of text. -/
def block (s : Lexer) (folded : Bool) : Except ReadError Lexer := do
  let s ← s.dropKey
  let (text, c) ← blockText folded s.indent s.cursor
  return { s.push (.scalar false text) with cursor := c, keyAllowed := true }

/-- A plain text. -/
def plain (s : Lexer) : Except ReadError Lexer := do
  let s ← s.markKey
  let (text, c, broke) := plainText s.inFlow (s.indent + 1) s.cursor
  return { s.push (.scalar true text) with cursor := c, keyAllowed := broke }

/-- The marks with which no plain text begins. -/
def marks : List Char :=
  ['-', '?', ':', ',', '[', ']', '\x7b', '\x7d', '#', '&', '*', '!', '|', '>', '\'', '"', '%', '@',
    '`']

/-- Whether a plain text begins here: not with a mark, unless it is a hyphen, or outside of flow
collections a question mark or colon, with more of the word after it. -/
def startsPlain (s : Lexer) (x : Char) : Bool :=
  (!isBlank x && !isBreak x && !marks.contains x) ||
    (!endsWord (s.cursor.peekAt 1) && (x == '-' || (!s.inFlow && (x == '?' || x == ':'))))

/-- Whether a mark stands here as a word. In a flow collection it does anywhere. -/
def isWord (s : Lexer) : Bool := s.inFlow || endsWord (s.cursor.peekAt 1)

/-- The token that begins with a character. -/
def token (s : Lexer) (x : Char) : Except ReadError Lexer :=
  let c := s.cursor
  let atLineStart := c.column == 0
  if x == '%' && atLineStart then do
    let s ← s.leaveBlocks
    let (d, c) ← directiveLine s.cursor
    return { s.push (.directive d) with cursor := c }
  else if atLineStart && c.isMark '-' then (·.pushFor .documentStart 3) <$> s.leaveBlocks
  else if atLineStart && c.isMark '.' then (·.pushFor .documentEnd 3) <$> s.leaveBlocks
  else if x == '[' then s.openFlow .flowSequence
  else if x == '\x7b' then s.openFlow .flowMapping
  else if x == ']' then s.closeFlow .flowSequenceEnd
  else if x == '\x7d' then s.closeFlow .flowMappingEnd
  else if x == ',' then s.flowEntry
  else if x == '-' && endsWord (c.peekAt 1) then s.blockEntry
  else if x == '?' && s.isWord then s.keyMark
  else if x == ':' && s.isWord then s.valueMark
  else if x == '*' then s.keyPart fun c => do
    let (name, c) ← nodeName c
    return (.reference name, c)
  else if x == '&' then s.keyPart fun c => do
    let (name, c) ← nodeName c
    return (.anchor name, c)
  else if x == '!' then s.keyPart tagProperty
  else if x == '|' && !s.inFlow then s.block false
  else if x == '>' && !s.inFlow then s.block true
  else if x == '\'' || x == '"' then s.keyPart fun c => do
    let (text, c) ← quotedText (x == '"') c
    return (.scalar false text, c)
  else if s.startsPlain x then s.plain
  else .error .malformed

/-- The next token, or nothing at the end of the text. -/
def next (s : Lexer) : Except ReadError (Lexer × Bool) := do
  let s ← (s.skipBlank (s.cursor.left + 1)).dropStale
  let s := s.closeBlocks s.cursor.column
  match s.cursor.peek with
  | none => return (← s.leaveBlocks, false)
  | some x => return (← s.token x, true)

/-- All further tokens. -/
def run : (fuel : Nat) → Lexer → Array Token
  | 0, s => s.tokens.push (.broken .malformed)
  | fuel + 1, s =>
    match s.next with
    | .error e => s.tokens.push (.broken e)
    | .ok (s, true) => run fuel s
    | .ok (s, false) => s.tokens

end Lexer

/-- The tokens of a text. Where it is not well-formed they break off. -/
def Token.ofText (text : List Char) : List Token :=
  if text.all isPrintable then (Lexer.run (text.length + 2) (Lexer.start text)).toList
  else [.broken .malformed]

end ApiLint.Yaml
