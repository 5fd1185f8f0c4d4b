import ApiLint.Config.Validation
import ApiLint.Dialect
import ApiLint.Document
import ApiLint.Failure
import ApiLint.World

/-!
# Troubles

Why a step of a run broke off. Troubles with a document or a configuration are reported to the user
as failures of the run; the others are nobody's expectation and escape from the step they arose in.

* `Trouble` collects the causes;
* `Trouble.failure?` is the report of an expected one;
* `World.isFile` and `World.exists?` ask what a path leads to, which the system may refuse to say.
-/

namespace ApiLint

/-- What is wrong with the source of a document, or with the document that it holds. -/
inductive SourceProblem
  | inputUnreadable (reason : String)
  | noInput
  | notFound (path : FilePath)
  | unreadable (path : FilePath) (reason : String)
  | emptyFile (path : FilePath)
  | status (code : Int) (url : String)
  | noAnswer (url text : String)
  | refused (r : Document.Refusal)
  | unsupported (dialect : Dialect) (version : String)
  | versionMissing

namespace SourceProblem

/-- What is reported. -/
def message : SourceProblem → String
  | .inputUnreadable reason => "Failed to read from stdin: " ++ reason
  | .noInput => "No input received from stdin"
  | .notFound path => "Spec file not found: " ++ path.text
  | .unreadable path reason => "Failed to read spec file " ++ path.text ++ ": " ++ reason
  | .emptyFile path => "Spec file is empty: " ++ path.text
  | .status code url => "HTTP " ++ Decimal.ofInt code ++ " fetching spec from " ++ url
  | .noAnswer url text => "Failed to fetch spec from " ++ url ++ ": " ++ text
  | .refused r => r.message
  | .unsupported d version => "Unsupported " ++ d.label ++ " version: " ++ version
  | .versionMissing => "Missing 'swagger' or 'openapi' field. Is this an API description?"

end SourceProblem

/-- What is wrong with a configuration file. -/
inductive ConfigFileProblem
  | notFound (path : FilePath)
  /-- The file holds no configuration. -/
  | invalid (path : FilePath) (complaint : String)
  /-- A file that should be new is there already. -/
  | present (path : FilePath)

namespace ConfigFileProblem

/-- What is reported. -/
def message : ConfigFileProblem → String
  | .notFound path => "Config file not found: " ++ path.text
  | .invalid path complaint => "Invalid config at " ++ path.text ++ ": " ++ complaint
  | .present path => path.text ++ " already exists (use --force to overwrite)"

end ConfigFileProblem

/-- Why a step of a run broke off. -/
inductive Trouble
  | source (p : SourceProblem)
  | config (p : ConfigFileProblem)
  | fault (f : Fault)
  | undecodable (b : Text.Utf8.BadBytes)
  | files (e : FileError)
  /-- The system does not say what a path leads to, in its own words. -/
  | lookup (reason : String)
  /-- There is no home directory. -/
  | homeless

namespace Trouble

/-- The report of a trouble that is expected. -/
def failure? : Trouble → Option Failure
  | .source p => some (.document p.message)
  | .config p => some (.configuration p.message)
  | _ => none

/-- A text without a document. -/
def ofDocument : DocumentError → Trouble
  | .refused r => .source (.refused r)
  | .fault f => .fault f

/-- A document without a supported version. -/
def ofDialect : DialectError → Trouble
  | .unsupported d version => .source (.unsupported d version)
  | .missing => .source .versionMissing
  | .fault f => .fault f

end Trouble

namespace World

/-- An answer about a path, unless the system refuses to give one. -/
def answer (w : World) (p : FilePath) (b : Bool) : Except Trouble Bool :=
  match w.lookupRefusal p with
  | some reason => .error (.lookup reason)
  | none => .ok b

/-- Whether a path leads to a file. -/
def isFile (w : World) (p : FilePath) : Except Trouble Bool :=
  w.answer p (w.files.isFile w.directory p)

/-- Whether a path leads anywhere. -/
def exists? (w : World) (p : FilePath) : Except Trouble Bool :=
  w.answer p (w.files.exists? w.directory p)

end World

end ApiLint
