import ApiLint.Cli.Run

/-!
# What a run depends on

A run looks at a few environment variables and at a few files, which its arguments and those
variables name. Whoever starts it has to know no more of the world than this.
-/

namespace ApiLint.Footprint

/-- The environment variables that a run looks at. -/
def settings : List String :=
  ["NO_COLOR", "TERM", "COLUMNS", "LINES", "HOME", "XDG_CONFIG_HOME", "XDG_DATA_HOME",
    Discovery.pathVariable]

/-- The command that arguments ask for. -/
def command? (args : List String) : Option Command :=
  match CommandLine.parse args with
  | some (.run _ command) => some command
  | _ => none

/-- The files that a command names. -/
def named : Command → List String
  | .lint source config _ => source :: config.toList
  | .init _ => []
  | .rules config => config.toList

/-- The files and directories that a run with these arguments reads or writes. -/
def paths (w : World) (args : List String) : List FilePath :=
  let given := ((command? args).map named).getD []
  let chosen := given ++ (w.environment.nonempty? Discovery.pathVariable).toList
  let user := (Discovery.userPath w).toOption.toList
  let logs := (Discovery.dataDirectory w).toOption.toList.map (·.child "logs")
  chosen.map FilePath.ofText ++ Discovery.candidates w.directory ++ user ++ logs

/-- Whether a run with these arguments reads standard input. -/
def readsInput (args : List String) : Bool :=
  match command? args with
  | some (.lint source _ _) => Source.ofText source = .input
  | _ => false

/-- The places in a tree that paths lead through. -/
def places (here : List String) (paths : List FilePath) : List (List String) :=
  (paths.flatMap fun p => FilePath.passage (p.origin here) p.parts).eraseDups

end ApiLint.Footprint
