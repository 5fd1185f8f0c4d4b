import ApiLint.FileTree

/-!
# Replacing a file at once

`FileTree.replaceFile` writes a file so that nobody sees a half-written one: the content goes to a
new file beside the target, which then takes the target's place. Each step can fail; whatever fails,
the new file is gone again and the target is as before.
-/

namespace ApiLint

/-- The steps of writing a file. -/
inductive WriteStep
  | create
  | write
  | sync
  | replace
deriving DecidableEq

namespace FileTree

/-- A name for the new file: hidden, and made from the name of the target. -/
def temporaryName (target : String) (n : Nat) : String :=
  "." ++ target ++ "." ++ String.ofList (Nat.toDigits 10 n) ++ ".tmp"

/-- The first such name that is free in a directory. -/
def freshName (t : FileTree) (directory : List String) (target : String) : String :=
  let free (n : Nat) := (t.at? (directory ++ [temporaryName target n])).isNone
  temporaryName target (((List.range (t.entries.length + 1)).find? free).getD 0)

/-- Moves a file onto a place. The place cannot be a directory. -/
def move (t : FileTree) (source target : List String) : Except FileError FileTree :=
  match t.at? source, t.at? target with
  | some (.file _), some .directory => .error .isDirectory
  | some (.file content), _ => .ok ((t.put target (.file content)).erase source)
  | _, _ => .error .missing

/-- Replaces a file in a directory. `obstacle` says which steps fail by themselves. The tree is the
one after the attempt, whether it succeeded or not. -/
def replaceIn (obstacle : WriteStep → Option FileError) (t : FileTree) (directory : List String)
    (name : String) (content : List UInt8) : FileTree × Except FileError Unit :=
  match obstacle .create with
  | some e => (t, .error e)
  | none =>
    let source := directory ++ [t.freshName directory name]
    let written := t.put source (.file content)
    match (obstacle .write).or (obstacle .sync) |>.or (obstacle .replace) with
    | some e => (written.erase source, .error e)
    | none =>
      if name = "" ∨ name = FilePath.up then (written.erase source, .error .busy)
      else match written.move source (directory ++ [name]) with
        | .ok moved => (moved, .ok ())
        | .error e => (written.erase source, .error e)

/-- Replaces a file, creating the directories above it. -/
def replaceFile (obstacle : WriteStep → Option FileError) (t : FileTree) (here : List String)
    (p : FilePath) (content : List UInt8) : FileTree × Except FileError Unit :=
  match t.establish here p.parent with
  | (t, .error e) => (t, .error e)
  | (t, .ok directory) => t.replaceIn obstacle directory p.name content

end FileTree

end ApiLint
