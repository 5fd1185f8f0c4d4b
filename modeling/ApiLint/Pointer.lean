import ApiLint.Value

/-!
# Local pointers

A local pointer `#/a/b` names a place in a document by segments separated by slashes. Inside a
segment `~1` stands for a slash and `~0` for a tilde.

* `Pointer.segments` reads a pointer, `Pointer.write` writes one;
* `Pointer.step` takes one segment from a value, `Pointer.walk` all segments one after the other,
  and `Pointer.lookup` is the value that a walk ends at, or null.

A segment of digits is converted to a number before it is known whether the value at hand has
numbered parts, so a segment with too many digits is a fault wherever the walk meets it.
-/

namespace ApiLint.Pointer

/-- How a local pointer begins. -/
def marker : String := "#/"

-- ---------------------------------------------------------------------------
-- Segments
-- ---------------------------------------------------------------------------

/-- Replaces each tilde that is followed by `code`, together with the code, by another character. -/
def unescape (code plain : Char) : List Char → List Char
  | '~' :: c :: rest =>
    if c = code then plain :: unescape code plain rest else '~' :: unescape code plain (c :: rest)
  | c :: rest => c :: unescape code plain rest
  | [] => []

/-- A segment as it is meant: slashes first, then tildes. -/
def decodeSegment (cs : List Char) : List Char := unescape '0' '~' (unescape '1' '/' cs)

/-- A segment as it is written in a pointer. -/
def encodeSegment (cs : List Char) : List Char :=
  cs.flatMap fun c => if c = '~' then ['~', '0'] else if c = '/' then ['~', '1'] else [c]

/-- The parts of a text between slashes; there is always one more than slashes. -/
def splitSlashes : List Char → List (List Char)
  | [] => [[]]
  | c :: rest =>
    if c = '/' then [] :: splitSlashes rest
    else match splitSlashes rest with
      | part :: parts => (c :: part) :: parts
      | [] => [[c]]

/-- The segments of a pointer. Its first two characters are the marker and are not looked at. -/
def segments (pointer : String) : List String :=
  (splitSlashes (pointer.toList.drop 2)).map fun cs => String.ofList (decodeSegment cs)

/-- The pointer with these segments. -/
def write (segments : List String) : String :=
  marker ++ "/".intercalate (segments.map fun s => String.ofList (encodeSegment s.toList))

-- ---------------------------------------------------------------------------
-- Walking
-- ---------------------------------------------------------------------------

/-- The number that a segment spells, if it consists of ASCII digits. -/
def index? (segment : String) : Except Fault (Option Nat) :=
  let cs := segment.toList
  if !cs.isEmpty && cs.all Decimal.isDigit then some <$> Decimal.numeral cs else .ok none

/-- The part of a value that a segment with a known number names. A mapping is asked for the text of
the segment first and for its number second; a list, a tuple or a byte string for the number. -/
def child? (v : Value) (segment : String) (index : Option Nat) : Option Value :=
  match v with
  | .map es => (Entries.field? es segment).or (index.bind fun (n : Nat) => Entries.get? es (.int n))
  | .list items => index.bind fun n => items[n]?
  | .tuple items => index.bind fun n => items[n]?
  | .bytes bs => index.bind fun n => bs[n]?.map fun b => .int b.toNat
  | _ => none

/-- The part of a value that a segment names. -/
def step (v : Value) (segment : String) : Except Fault (Option Value) := do
  return child? v segment (← index? segment)

/-- The value at the end of a walk; nothing if a step finds nothing. -/
def walk : Value → List String → Except Fault (Option Value)
  | v, [] => .ok (some v)
  | v, segment :: rest => do
    match ← step v segment with
    | some next => walk next rest
    | none => return none

/-- The value at the end of a walk, or null. -/
def lookup (root : Value) (segments : List String) : Except Fault Value := do
  return (← walk root segments).getD .null

end ApiLint.Pointer
