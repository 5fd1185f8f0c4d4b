import ApiLint.Failure

/-!
# Command lines

`Arguments.scan` separates options from other arguments: long options take a value after an equals
sign or as the next argument, short ones take the rest of their cluster or the next argument, a lone
hyphen is no option, and after two hyphens there are none. `CommandLine.parse` gives them their
meaning; `none` stands for arguments that are not understood.
-/

namespace ApiLint

/-- An option: its names and whether it takes a value. -/
structure OptionSpec (α : Type) where
  key : α
  long : String
  short : Option Char
  takesValue : Bool

/-- An option as it was given. -/
structure GivenOption (α : Type) where
  key : α
  value : Option String

namespace Arguments

variable {α : Type}

/-- What one argument says: the options in it, and the one that still needs the next argument. -/
structure Reading (α : Type) where
  given : List (GivenOption α)
  pending : Option α

/-- The options of a cluster of short ones. -/
def cluster (specs : List (OptionSpec α)) : List Char → Option (Reading α)
  | [] => some ⟨[], none⟩
  | c :: rest => do
    let spec ← specs.find? fun s => s.short == some c
    if spec.takesValue then
      if rest.isEmpty then some ⟨[], some spec.key⟩
      else some ⟨[⟨spec.key, some (String.ofList rest)⟩], none⟩
    else
      let more ← cluster specs rest
      some ⟨⟨spec.key, none⟩ :: more.given, more.pending⟩

/-- What an argument that begins with a hyphen says. -/
def option (specs : List (OptionSpec α)) (arg : List Char) : Option (Reading α) :=
  let name := arg.takeWhile (· ≠ '=')
  let value := arg.drop (name.length + 1)
  let attached := name.length < arg.length
  match specs.find? fun s => s.long.toList == name with
  | some spec =>
    if spec.takesValue then
      if attached then some ⟨[⟨spec.key, some (String.ofList value)⟩], none⟩
      else some ⟨[], some spec.key⟩
    else if attached then none
    else some ⟨[⟨spec.key, none⟩], none⟩
  | none => if ['-', '-'].isPrefixOf arg then none else cluster specs (arg.drop 1)

/-- Whether an argument is written like an option. -/
def isOption : List Char → Bool
  | '-' :: _ :: _ => true
  | _ => false

/-- The options among arguments, and the other arguments. Unless options may follow other arguments
(`mixed`), the first other argument ends them. -/
def scan (specs : List (OptionSpec α)) (mixed : Bool) :
    List String → Option (List (GivenOption α) × List String)
  | [] => some ([], [])
  | arg :: rest =>
    if arg = "--" then some ([], rest)
    else if isOption arg.toList then
      match option specs arg.toList, rest with
      | none, _ => none
      | some ⟨given, none⟩, rest => do
        let (more, others) ← scan specs mixed rest
        some (given ++ more, others)
      | some ⟨_, some _⟩, [] => none
      | some ⟨given, some key⟩, value :: rest => do
        let (more, others) ← scan specs mixed rest
        some (given ++ ⟨key, some value⟩ :: more, others)
    else if mixed then do
      let (more, others) ← scan specs mixed rest
      some (more, arg :: others)
    else some ([], arg :: rest)

end Arguments

-- ---------------------------------------------------------------------------
-- The program's command line
-- ---------------------------------------------------------------------------

/-- The options before the name of a command. -/
inductive GlobalOption
  | version
  | json
  | plain
  | noColour
  | quiet
  | verbose
  | help
deriving DecidableEq

/-- The options of commands. -/
inductive CommandOption
  | config
  | errorsOnly
  | force
  | help
deriving DecidableEq

/-- What a run is asked to do. -/
inductive Command
  | lint (source : String) (config : Option String) (errorsOnly : Bool)
  | init (force : Bool)
  | rules (config : Option String)
deriving DecidableEq

/-- A command line that is understood. -/
inductive CommandLine
  /-- To name the version. -/
  | version
  /-- To explain the use of the program. -/
  | help
  | run (globals : List GlobalOption) (command : Command)
deriving DecidableEq

namespace CommandLine

/-- The options before the name of a command. -/
def globalSpecs : List (OptionSpec GlobalOption) := [
  ⟨.version, "--version", none, false⟩, ⟨.json, "--json", none, false⟩,
  ⟨.plain, "--plain", none, false⟩, ⟨.noColour, "--no-color", none, false⟩,
  ⟨.quiet, "--quiet", some 'q', false⟩, ⟨.verbose, "--verbose", some 'v', false⟩,
  ⟨.help, "--help", none, false⟩]

/-- The option that asks for an explanation. -/
def helpSpec : OptionSpec CommandOption := ⟨.help, "--help", none, false⟩

/-- The option that names a configuration file. -/
def configSpec : OptionSpec CommandOption := ⟨.config, "--config", some 'c', true⟩

/-- The value of the last option with a key. -/
def valueOf (given : List (GivenOption CommandOption)) (key : CommandOption) : Option String :=
  ((given.filter fun g => g.key = key).getLast?).bind GivenOption.value

/-- Whether an option was given. -/
def isGiven (given : List (GivenOption CommandOption)) (key : CommandOption) : Bool :=
  given.any fun g => g.key = key

/-- What a command and its arguments ask for; an explanation comes before all else. -/
def parseCommand (name : String) (args : List String) : Option (Option Command) :=
  match name with
  | "lint" => do
    let specs := [configSpec, ⟨.errorsOnly, "--errors-only", some 'e', false⟩, helpSpec]
    let (given, others) ← Arguments.scan specs true args
    if isGiven given .help then some none
    else match others with
      | [source] => some (some (.lint source (valueOf given .config) (isGiven given .errorsOnly)))
      | _ => none
  | "init" => do
    let specs := [⟨.force, "--force", some 'f', false⟩, helpSpec]
    let (given, others) ← Arguments.scan specs true args
    if isGiven given .help then some none
    else if others.isEmpty then some (some (.init (isGiven given .force))) else none
  | "rules" => do
    let (given, others) ← Arguments.scan [configSpec, helpSpec] true args
    if isGiven given .help then some none
    else if others.isEmpty then some (some (.rules (valueOf given .config))) else none
  | _ => none

/-- What arguments ask for. Of the requests for the version and for an explanation the first one
is met at once. -/
def parse (args : List String) : Option CommandLine := do
  let (given, others) ← Arguments.scan globalSpecs false args
  let globals := given.map GivenOption.key
  match globals.find? fun g => g = .version ∨ g = .help with
  | some .version => some .version
  | some _ => some .help
  | none => match others with
    | [] => none
    | name :: rest => match ← parseCommand name rest with
      | some command => some (.run globals command)
      | none => some .help

end CommandLine

end ApiLint
