import ApiLint.FilePath

/-!
# File trees

A file tree maps places, lists of names from the root, to files and directories. The root is always
a directory.

* `FileTree.locate` follows a path to the place it leads to, one directory after the other;
* `FileTree.establish` creates what is missing on a path;
* `FileTree.put` and `FileTree.erase` change one place.
-/

namespace ApiLint

/-- What a place in a tree holds. -/
inductive FileEntry
  | file (content : List UInt8)
  | directory
deriving DecidableEq

/-- Why an operation on files failed. -/
inductive FileError
  /-- Nothing is there. -/
  | missing
  /-- A file stands where a directory has to. -/
  | notDirectory
  /-- Something is there already. -/
  | present
  /-- A directory stands where a file has to. -/
  | isDirectory
  /-- The place is in use. -/
  | busy
deriving DecidableEq

/-- The files and directories below the root. -/
structure FileTree where
  entries : List (List String × FileEntry)

namespace FileTree

/-- A tree with nothing below its root. -/
def empty : FileTree := ⟨[]⟩

/-- What a place holds. -/
def at? (t : FileTree) (place : List String) : Option FileEntry :=
  if place.isEmpty then some .directory else t.entries.lookup place

/-- The tree with one place emptied. -/
def erase (t : FileTree) (place : List String) : FileTree :=
  ⟨t.entries.filter fun e => e.1 ≠ place⟩

/-- The tree with something else at one place. -/
def put (t : FileTree) (place : List String) (entry : FileEntry) : FileTree :=
  ⟨(place, entry) :: (t.erase place).entries⟩

/-- The tree without a place and everything below it. -/
def eraseBelow (t : FileTree) (place : List String) : FileTree :=
  ⟨t.entries.filter fun e => !place.isPrefixOf e.1⟩

/-- Follows parts from a place. Every place but the last one has to be a directory. -/
def walk (t : FileTree) : (here : List String) → List String → Except FileError (List String)
  | here, [] => .ok here
  | here, part :: rest =>
    match t.at? here with
    | none => .error .missing
    | some (.file _) => .error .notDirectory
    | some .directory =>
      let next := FilePath.step here part
      if (t.at? next).isSome then t.walk next rest else .error .missing

/-- The place that a path leads to from a directory. -/
def locate (t : FileTree) (here : List String) (p : FilePath) : Except FileError (List String) :=
  t.walk (p.origin here) p.parts

/-- What a path leads to, if it leads anywhere. -/
def find? (t : FileTree) (here : List String) (p : FilePath) : Option FileEntry :=
  match t.locate here p with
  | .ok place => t.at? place
  | .error _ => none

/-- Whether a path leads to a file. -/
def isFile (t : FileTree) (here : List String) (p : FilePath) : Bool :=
  match t.find? here p with
  | some (.file _) => true
  | _ => false

/-- Whether a path leads anywhere. -/
def exists? (t : FileTree) (here : List String) (p : FilePath) : Bool := (t.find? here p).isSome

/-- The content of a file. -/
def content (t : FileTree) (here : List String) (p : FilePath) : Except FileError (List UInt8) := do
  match t.at? (← t.locate here p) with
  | some (.file bytes) => return bytes
  | some .directory => throw .isDirectory
  | none => throw .missing

/-- Creates the directories that parts lead through, as far as they are missing, and yields the last
one. What has been created stays, even if a file stands in the way of what comes after it. Nothing
leads through a file; but once a directory had to be created, the others are asked for one by one,
and a file is found in place of one of them. `made` says whether it is so. -/
def makeFrom (t : FileTree) (made : Bool) :
    (here : List String) → List String → FileTree × Except FileError (List String)
  | here, [] => (t, .ok here)
  | here, part :: rest =>
    let next := FilePath.step here part
    match t.at? next with
    | some .directory => t.makeFrom made next rest
    | some (.file _) => (t, .error (if rest.isEmpty || made then .present else .notDirectory))
    | none => (t.put next .directory).makeFrom true next rest

/-- Creates a directory and all those above it, as far as they are missing. The tree is the one
after the attempt, whether it succeeded or not. -/
def establish (t : FileTree) (here : List String) (p : FilePath) :
    FileTree × Except FileError (List String) :=
  t.makeFrom false (p.origin here) p.parts

/-- The tree with a directory and all those above it, if they can be created. -/
def makeDirectories (t : FileTree) (here : List String) (p : FilePath) :
    Except FileError (FileTree × List String) :=
  match t.establish here p with
  | (_, .error e) => .error e
  | (t, .ok place) => .ok (t, place)

/-- Puts a file at a path, whose directory has to exist. -/
def writeFile (t : FileTree) (here : List String) (p : FilePath) (content : List UInt8) :
    Except FileError FileTree := do
  if p.parts.isEmpty then throw .isDirectory
  let directory ← t.locate here p.parent
  if t.at? directory ≠ some .directory then throw .notDirectory
  let place := FilePath.step directory p.name
  match t.at? place with
  | some .directory => throw .isDirectory
  | _ => return t.put place (.file content)

/-- The places below a directory, by their path from there; those of directories end in a slash. -/
def listing (t : FileTree) (here : List String) : List String :=
  let inside := t.entries.filterMap fun (place, entry) =>
    if here.isPrefixOf place ∧ here.length < place.length then
      let path := "/".intercalate (place.drop here.length)
      some (if entry = .directory then path ++ "/" else path)
    else none
  inside.mergeSort fun a b => decide (a ≤ b)

end FileTree

end ApiLint
