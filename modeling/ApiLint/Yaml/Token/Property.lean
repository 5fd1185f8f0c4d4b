import ApiLint.Yaml.Token.Scalar
import ApiLint.Text.Utf8

/-!
# Names, tags and directives
-/

namespace ApiLint.Yaml

/-- The characters that may follow the name of an anchor. -/
def endsName (c : Option Char) : Bool :=
  endsWord c || c.any fun c => ['?', ':', ',', ']', '\x7d', '%', '@', '`'].contains c

/-- The name of an anchor or a reference, from its mark on. -/
def nodeName (c : Cursor) : Except ReadError (List Char × Cursor) :=
  let (name, c) := c.next.takeWhile isWordChar
  if name.isEmpty || !endsName c.peek then .error .malformed else .ok (name, c)

/-- The characters of tags. -/
def isTagChar (c : Char) : Bool :=
  c.isAlphanum || "-;/?:@&=+$,_.!~*'()[]%".toList.contains c

/-- The bytes that a run of escapes with a percent sign spells, and the place after them. -/
def percentBytes : (fuel : Nat) → Cursor → Except ReadError (List UInt8 × Cursor)
  | 0, c => .ok ([], c)
  | fuel + 1, c =>
    match c.rest with
    | '%' :: a :: b :: _ =>
      match hexNumber? [a, b] with
      | some n => do
        let (bytes, c) ← percentBytes fuel (c.skip 3)
        return (n.toUInt8 :: bytes, c)
      | none => .error .malformed
    | '%' :: _ => .error .malformed
    | _ => .ok ([], c)

/-- The rest of a tag, with its escapes resolved. -/
def tagParts : (fuel : Nat) → Cursor → Except ReadError (List Char × Cursor)
  | 0, c => .ok ([], c)
  | fuel + 1, c =>
    match c.peek with
    | some '%' => do
      let (bytes, c) ← percentBytes c.left c
      match Text.Utf8.decode bytes with
      | .ok text =>
        let (more, c) ← tagParts fuel c
        return (text ++ more, c)
      | .error _ => throw .malformed
    | some x =>
      if isTagChar x then do
        let (run, c) := c.takeWhile fun x => isTagChar x && x != '%'
        let (more, c) ← tagParts fuel c
        return (run ++ more, c)
      else .ok ([], c)
    | none => .ok ([], c)

/-- The characters of a tag; there is at least one. -/
def tagText (c : Cursor) : Except ReadError (List Char × Cursor) := do
  if !c.peek.any isTagChar then throw .malformed
  tagParts (c.left + 1) c

/-- A handle: an exclamation mark, or a name between two of them. -/
def tagHandle (c : Cursor) : Except ReadError (List Char × Cursor) :=
  if c.peek ≠ some '!' then .error .malformed
  else
    let (name, after) := c.next.takeWhile isWordChar
    if after.peek = some '!' then .ok ('!' :: (name ++ ['!']), after.next)
    else if name.isEmpty && c.peekAt 1 = some ' ' then .ok (['!'], c.next)
    else .error .malformed

/-- Whether another exclamation mark follows the one at a place within the same word. -/
def hasHandle (c : Cursor) : Bool :=
  (c.next.rest.takeWhile fun x => !(x == ' ' || isBreak x)).contains '!'

/-- A tag, from its exclamation mark on. -/
def tagProperty (c : Cursor) : Except ReadError (Token × Cursor) := do
  let (token, c) ← if c.peekAt 1 = some '<' then do
      let (text, c) ← tagText (c.skip 2)
      if c.peek ≠ some '>' then throw .malformed
      pure (Token.tag none text, c.next)
    else if endsWord (c.peekAt 1) then pure (Token.tag none ['!'], c.next)
    else do
      let (handle, c) ← if hasHandle c then tagHandle c else pure (['!'], c.next)
      let (text, c) ← tagText c
      pure (Token.tag (some handle) text, c)
  if !endsProperty c.peek then throw .malformed
  return (token, c)

-- ---------------------------------------------------------------------------
-- Directives
-- ---------------------------------------------------------------------------

/-- A number of a version. -/
def versionNumber (c : Cursor) : Except ReadError (Nat × Cursor) :=
  let (digits, c) := c.takeWhile Decimal.isDigit
  if digits.isEmpty then .error .malformed
  else match Decimal.numeral digits with
    | .ok n => .ok (n, c)
    | .error fault => .error (.conversion fault)

/-- A directive, from its percent sign to the end of its line. -/
def directiveLine (c : Cursor) : Except ReadError (Directive × Cursor) := do
  let (name, c) := c.next.takeWhile isWordChar
  if name.isEmpty || !endsProperty c.peek then throw .malformed
  let (directive, c) ← if name = "YAML".toList then do
      let (major, c) ← versionNumber (c.skipWhile (· == ' '))
      if c.peek ≠ some '.' then throw .malformed
      let (_, c) ← versionNumber c.next
      if !endsProperty c.peek then throw .malformed
      pure (Directive.version major, c)
    else if name = "TAG".toList then do
      let (handle, c) ← tagHandle (c.skipWhile (· == ' '))
      if c.peek ≠ some ' ' then throw .malformed
      let (lead, c) ← tagText (c.skipWhile (· == ' '))
      if !endsProperty c.peek then throw .malformed
      pure (Directive.shorthand handle lead, c)
    else pure (Directive.other, c.skipLine)
  let c := c.skipComment
  if !endsLine c.peek then throw .malformed
  return (directive, c.skipBreak)

end ApiLint.Yaml
