import ApiLint.Cli.Arguments
import ApiLint.Config.Discovery
import ApiLint.Document.Source
import ApiLint.Lint
import ApiLint.Report

/-!
# Runs of the program

A run reads the world and yields what it writes, the files it leaves behind and the status it ends
with.

* `Run.lint`, `Run.init` and `Run.rules` are the commands;
* `Run.perform` is a run with its command, and `Run.start` one with its arguments. A trouble that no
  command expects is noted in a file for the developers and ends the run as an internal error.
-/

namespace ApiLint

/-- What a command leaves behind. -/
structure Performance where
  out : String
  err : String
  files : FileTree
  /-- The status, unless a trouble escaped. -/
  ending : Except Trouble ExitCode

/-- How a run ends. -/
inductive RunOutcome
  /-- With arguments that are not understood. -/
  | misused
  | finished (out err : String) (files : FileTree) (exit : ExitCode)
  /-- Without a status, because not even the note of an internal error could be written. -/
  | broken (t : Trouble)

namespace Run

/-- A log on standard error: all of it in a verbose run, else the warnings alone, without their
origin. -/
def logText (p : Presentation) (events : List LogEvent) : String :=
  let line (e : LogEvent) : Except Fault String :=
    if p.verbose then (· ++ "\n") <$> e.line
    else if e.level = .warning then (· ++ "\n") <$> e.message
    else .ok ""
  String.join (events.map fun e => (line e).toOption.getD "")

/-- The end of a command that met a trouble after writing to standard error. -/
def stop (w : World) (p : Presentation) (err : String) (t : Trouble) : Performance :=
  match t.failure? with
  | some f => ⟨"", err ++ p.message .error f.message, w.files, .ok f.kind.exitCode⟩
  | none => ⟨"", err, w.files, .error t⟩

-- ---------------------------------------------------------------------------
-- Commands
-- ---------------------------------------------------------------------------

/-- What a document is checked with: the configuration, the document and its version. -/
structure Preparation where
  config : Config
  document : Entries
  version : DialectVersion

/-- The configuration of a run, then the document, then its version. -/
def prepare (w : World) (source : String) (config : Option String) : Logged Preparation := do
  let config ← Discovery.load w config
  let document ← Source.load w source
  let version ← Logged.ofExcept ((DialectVersion.of document).mapError Trouble.ofDialect)
  return ⟨config, document, version⟩

/-- The status of a run that found something. -/
def statusOf (found : Findings) : ExitCode := if found.hasErrors then .findings else .success

/-- Checks a document and reports the findings. Leaving out the warnings changes the report
alone. -/
def lint (w : World) (p : Presentation) (source : String) (config : Option String)
    (errorsOnly : Bool) : Performance :=
  let prepared := prepare w source config
  let err := logText p prepared.log
  match prepared.result with
  | .error t => stop w p err t
  | .ok ready =>
    let note := p.message .debug ("Validating " ++ source ++ " (" ++ ready.version.text ++ ")")
    let trail := Lint.trail ready.document ready.config.operations.active
      (Operation.encounters ready.document)
    match Lint.run ready.document ready.config.operations with
    | .error f => stop w p (err ++ note ++ logText p trail) (.fault f)
    | .ok found =>
      let events := trail ++ [.totals found.errors.length found.warnings.length]
      let shown := if errorsOnly then found.errorsOnly else found
      ⟨Report.output p shown, err ++ note ++ logText p events ++ Report.summary p shown, w.files,
        .ok (statusOf found)⟩

/-- Writes the shipped configuration to the current directory. -/
def init (w : World) (p : Presentation) (force : Bool) : Performance :=
  match ConfigFile.install w none force with
  | (w, .error t) => stop w p "" t
  | (w, .ok path) =>
    let done := p.message .success ("Wrote default configuration to " ++ path.text)
    let next := p.message .suggestion ("Set a rule to \"off\" to disable it, then run: " ++
      Product.name ++ " lint <spec>")
    ⟨"", done ++ next, w.files, .ok .success⟩

/-- The rules with their severities. -/
def rulesTable (s : Severities) : Table where
  title := some "Rules"
  headers := ["Module", "Rule", Table.severityHeader, "Description"]
  rows := Rule.all.map fun rule =>
    [Config.operationsKey, rule.key, (s.of rule).name, rule.description]

/-- Lists the rules. -/
def rules (w : World) (p : Presentation) (config : Option String) : Performance :=
  let loaded := Discovery.load w config
  let err := logText p loaded.log
  match loaded.result with
  | .error t => stop w p err t
  | .ok config => ⟨p.table (rulesTable config.operations), err, w.files, .ok .success⟩

/-- Carries out a command. -/
def perform (w : World) (p : Presentation) : Command → Performance
  | .lint source config errorsOnly => lint w p source config errorsOnly
  | .init force => init w p force
  | .rules config => rules w p config

-- ---------------------------------------------------------------------------
-- Whole runs
-- ---------------------------------------------------------------------------

/-- What the options before the command ask for. A report in JSON goes before a plain one. -/
def presentationOptions (globals : List GlobalOption) : PresentationOptions where
  format :=
    if globals.contains .json then some .json
    else if globals.contains .plain then some .plain
    else none
  noColour := globals.contains .noColour
  quiet := globals.contains .quiet
  verbose := globals.contains .verbose

/-- The presentation of a run. -/
def presentation (w : World) (globals : List GlobalOption) : Presentation :=
  Presentation.choose (presentationOptions globals) w.isTerminal w.columns w.environment

/-- What the note of an internal error says. -/
def troubleText : Trouble → String
  | .fault f => f.message
  | .undecodable b => b.message
  | .files _ => "file error"
  | .lookup reason => reason
  | .homeless => "Could not determine home directory."
  | t => (t.failure?.map Failure.message).getD ""

/-- Notes an internal error among the program's data. -/
def noteTrouble (w : World) (t : Trouble) : Except Trouble (FileTree × FilePath) := do
  let (files, data) ← Discovery.makeDataDirectory w
  let directory := data.child "logs"
  let (files, _) ← (files.makeDirectories w.directory directory).mapError Trouble.files
  let path := directory.child ("crash-" ++ w.time ++ ".log")
  let content := Text.Utf8.encode (troubleText t ++ "\n").toList
  let files ← (files.writeFile w.directory path content).mapError Trouble.files
  return (files, path)

/-- The end of a run after its command. -/
def settle (w : World) (p : Presentation) (done : Performance) : RunOutcome :=
  match done.ending with
  | .ok exit => .finished done.out done.err done.files exit
  | .error t => match noteTrouble { w with files := done.files } t with
    | .error t => .broken t
    | .ok (files, path) =>
      let report := p.message .error ("Internal error. Traceback saved to " ++ path.text)
      .finished done.out (done.err ++ report) files .failure

/-- The version of the program. -/
def versionText : String := Product.name ++ " " ++ Product.version ++ "\n"

/-- How the program is used. -/
def helpText : String :=
  String.join [
    "Usage: ", Product.name, " [OPTIONS] COMMAND [ARGS]...\n\n",
    "Check Swagger/OpenAPI operations against API design conventions.\n\n",
    "Options: --version --json --plain --no-color -q/--quiet -v/--verbose --help\n\n",
    "Commands:\n",
    "  lint [-c FILE] [-e] SOURCE   Check a description (a URL, a file, or - for stdin).\n",
    "  init [-f]                    Write the default configuration.\n",
    "  rules [-c FILE]              List the rules with their severities.\n"]

/-- A run with its arguments. -/
def start (w : World) (args : List String) : RunOutcome :=
  match CommandLine.parse args with
  | none => .misused
  | some .version => .finished versionText "" w.files .success
  | some .help => .finished helpText "" w.files .success
  | some (.run globals command) =>
    let p := presentation w globals
    settle w p (perform w p command)

end Run

end ApiLint
