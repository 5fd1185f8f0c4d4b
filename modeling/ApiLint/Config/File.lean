import ApiLint.Json.Writer
import ApiLint.Logged

/-!
# Configuration files

A configuration file is a JSON object.

* `ConfigFile.load` reads one;
* `ConfigFile.defaultText` is the text of the shipped configuration, and `ConfigFile.install` writes
  it to a new file.
-/

namespace ApiLint.ConfigFile

/-- The configuration that a text spells out. -/
def parse (path : FilePath) (text : String) : Except Trouble Config :=
  match Formats.readJson text with
  | .error (.malformed complaint) => .error (.config (.invalid path complaint))
  | .error (.conversion fault) => .error (.fault fault)
  | .ok (.map es) => match Config.ofObject (Json.names text) es with
    | .ok c => .ok c
    | .error rejection => match rejection.message with
      | .ok complaint => .error (.config (.invalid path complaint))
      | .error fault => .error (.fault fault)
  | .ok _ => .error (.config (.invalid path "expected a JSON object"))

/-- The configuration in a file. -/
def load (w : World) (path : FilePath) : Except Trouble Config := do
  if ← w.isFile path then
    match w.readText path with
    | .error (.undecodable b) => throw (.undecodable b)
    | .error (.unreadable reason) => throw (.config (.invalid path reason))
    | .ok text => parse path text
  else throw (.config (.notFound path))

/-- The name of the configuration file of a project. -/
def projectName : String := ".speclintrc"

/-- A configuration as a JSON document. -/
def tree (s : Severities) : Json.Tree :=
  .obj [(Config.operationsKey, .obj (Rule.all.map fun rule => (rule.key, .str (s.of rule).name)))]

/-- The text of the shipped configuration. -/
def defaultText : String := (tree Severities.default).render ++ "\n"

/-- Writes the shipped configuration to a file, by default that of the project in the current
directory. A file that is there is replaced only if `force` says so. Yields the world afterwards. -/
def install (w : World) (path : Option FilePath) (force : Bool) :
    World × Except Trouble FilePath :=
  let path := path.getD ((FilePath.absolute w.directory).child projectName)
  match w.exists? path with
  | .error t => (w, .error t)
  | .ok there =>
    if there && !force then (w, .error (.config (.present path)))
    else
      let content := Text.Utf8.encode defaultText.toList
      let (files, outcome) := w.files.replaceFile w.obstacle w.directory path content
      ({ w with files }, match outcome with
        | .ok () => .ok path
        | .error e => .error (.files e))

end ApiLint.ConfigFile
