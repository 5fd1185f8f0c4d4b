/-!
# Paths of files

A path as it is written: where it starts and its parts. Doubled slashes and parts that stay where
they are do not count, but a step upwards is kept, because what it leads to depends on the files.

* `FilePath.ofText` reads a path and `FilePath.text` writes it;
* `FilePath.parent`, `FilePath.name` and `FilePath.suffix` take it apart;
* `FilePath.child` and `FilePath.below` extend it;
* `FilePath.passage` lists the places that it leads through, and `FilePath.lexical` is the last one.
-/

namespace ApiLint

/-- Where a path starts. -/
inductive PathStart
  /-- At the current directory. -/
  | relative
  | root
  /-- At the root, written with two slashes, which some systems tell from one. -/
  | doubledRoot
deriving DecidableEq

/-- A path as it is written. -/
structure FilePath where
  start : PathStart
  parts : List String
deriving DecidableEq

namespace FilePath

/-- The part that leads upwards. -/
def up : String := ".."

/-- Where a text starts as a path. -/
def startOf : List Char → PathStart
  | '/' :: '/' :: '/' :: _ => .root
  | '/' :: '/' :: _ => .doubledRoot
  | '/' :: _ => .root
  | _ => .relative

/-- The path that a text writes. -/
def ofText (text : String) : FilePath where
  start := startOf text.toList
  parts := (text.splitOn "/").filter fun part => part ≠ "" ∧ part ≠ "."

/-- The text of a path. -/
def text (p : FilePath) : String :=
  let body := "/".intercalate p.parts
  match p.start with
  | .relative => if p.parts.isEmpty then "." else body
  | .root => "/" ++ body
  | .doubledRoot => "//" ++ body

/-- The path of these directories from the root. -/
def absolute (parts : List String) : FilePath := ⟨.root, parts⟩

/-- A path inside another one. -/
def child (p : FilePath) (name : String) : FilePath := { p with parts := p.parts ++ [name] }

/-- A path below another one. -/
def below (p : FilePath) (names : List String) : FilePath := { p with parts := p.parts ++ names }

/-- The path without its last part. -/
def parent (p : FilePath) : FilePath := { p with parts := p.parts.dropLast }

/-- The last part of a path; empty if it has none. -/
def name (p : FilePath) : String := p.parts.getLast?.getD ""

/-- What a name ends in, from its last dot on. A dot at either end does not count. -/
def suffixOf (name : List Char) : List Char :=
  let tail := (name.reverse.takeWhile (· ≠ '.')).reverse
  if tail.isEmpty ∨ name.length ≤ tail.length + 1 then [] else '.' :: tail

/-- What the name of a path ends in. -/
def suffix (p : FilePath) : String := String.ofList (suffixOf p.name.toList)

/-- One step from a directory: upwards, or into a part. There is nothing above the root. -/
def step (here : List String) (part : String) : List String :=
  if part = up then here.dropLast else here ++ [part]

/-- The place where a path starts, for a run in a directory. -/
def origin (here : List String) (p : FilePath) : List String :=
  if p.start = .relative then here else []

/-- The places that parts lead through from a directory, the last one included. -/
def passage (here : List String) : List String → List (List String)
  | [] => [here]
  | part :: rest => here :: passage (step here part) rest

/-- Where a path leads from a directory if every part is a directory. -/
def lexical (here : List String) (p : FilePath) : List String :=
  p.parts.foldl step (p.origin here)

end FilePath

end ApiLint
