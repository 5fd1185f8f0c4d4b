import ApiLint.Config.File
import ApiLint.Product

/-!
# Finding the configuration of a run

One file decides about a run, and files are never merged. From the highest to the lowest precedence
it is

1. the file that the command line names,
2. the file that an environment variable names,
3. the project's file in the nearest directory that has one, from the current one upwards,
4. the user's file,
5. and if there is none of these, the shipped configuration applies.

A file that is named has to exist. Where the search asks for a file and the system does not answer,
or needs a home directory and there is none, it breaks off.

* `Discovery.path?` chooses the file and `Discovery.load` reads it;
* `Discovery.configDirectory` and `Discovery.dataDirectory` are the user's directories.
-/

namespace ApiLint.Discovery

/-- The environment variable that names a configuration file. -/
def pathVariable : String := "SPECLINT_CONFIG"

/-- Whether a system keeps the files of users in the directories of the XDG standard. -/
def usesXdg (platform : String) : Bool :=
  platform == "Linux" || ['D', 'S', 'B'].isPrefixOf platform.toList.reverse

/-- The home directory: the one that a variable names, else that of the account. A tilde does not
stand for a directory here, so what begins with one names none. -/
def home (w : World) : Except Trouble FilePath :=
  match (w.environment.get? "HOME").or w.accountHome with
  | none => .error .homeless
  | some text =>
    let trimmed := (text.toList.reverse.dropWhile (· == '/')).reverse
    if trimmed.head? = some '~' then .error .homeless
    else .ok (FilePath.ofText (if trimmed.isEmpty then "/" else String.ofList trimmed))

/-- The program's directory under one that a variable names or that lies at a place in the home
directory. Elsewhere than on systems of the XDG standard there is only one. -/
def userDirectory (w : World) (name : String) (place : List String) : Except Trouble FilePath :=
  if usesXdg w.platform then
    match w.environment.nonempty? name with
    | some text => .ok ((FilePath.ofText text).child Product.name)
    | none => do return ((← home w).below place).child Product.name
  else do return (← home w).child ("." ++ Product.name)

/-- Where the user's configuration lies. -/
def configDirectory (w : World) : Except Trouble FilePath :=
  userDirectory w "XDG_CONFIG_HOME" [".config"]

/-- Where data of the program lies. -/
def dataDirectory (w : World) : Except Trouble FilePath :=
  userDirectory w "XDG_DATA_HOME" [".local", "share"]

/-- Creates the directory of the program's data and those above it, as far as they are missing. -/
def makeDataDirectory (w : World) : Except Trouble (FileTree × FilePath) := do
  let path ← dataDirectory w
  let (files, _) ← (w.files.makeDirectories w.directory path).mapError Trouble.files
  return (files, path)

/-- The user's configuration file. -/
def userPath (w : World) : Except Trouble FilePath := do
  return (← configDirectory w).child "config.json"

/-- A directory and all those above it, the nearest first. -/
def ancestors (directory : List String) : List (List String) :=
  (List.range (directory.length + 1)).map fun n => directory.take (directory.length - n)

/-- Where a project's file may lie for a run in a directory, the nearest place first. -/
def candidates (directory : List String) : List FilePath :=
  (ancestors directory).map fun d => (FilePath.absolute d).child ConfigFile.projectName

/-- The first of some paths that leads to a file. -/
def firstFile? (w : World) : List FilePath → Except Trouble (Option FilePath)
  | [] => .ok none
  | p :: ps => do if ← w.isFile p then return some p else firstFile? w ps

/-- The project's file nearest to where a path leads, by default to the current directory. -/
def projectPath? (w : World) (start : Option FilePath) : Except Trouble (Option FilePath) :=
  firstFile? w (candidates (match start with
    | some p => p.lexical w.directory
    | none => w.directory))

/-- The configuration file of a run, if there is one. -/
def path? (w : World) (given : Option String) : Except Trouble (Option FilePath) :=
  match given with
  | some text => .ok (some (FilePath.ofText text))
  | none => match w.environment.nonempty? pathVariable with
    | some text => .ok (some (FilePath.ofText text))
    | none => do
      match ← projectPath? w none with
      | some path => return some path
      | none => firstFile? w [← userPath w]

/-- The configuration of a run. -/
def load (w : World) (given : Option String) : Logged Config := do
  match ← Logged.ofExcept (path? w given) with
  | none =>
    Logged.record .configDefaults
    return Config.default
  | some path =>
    Logged.record (.configFile path.text)
    Logged.ofExcept (ConfigFile.load w path)

end ApiLint.Discovery
