import ApiLint.Value.Text

/-!
# Log events

What a run records about its course, as data. `LogEvent.line` is the line a log shows; it needs the
text of a value only for a severity that is none, and only there can it fail.
-/

namespace ApiLint

/-- A recorded event. -/
inductive LogEvent
  /-- An entry of `paths` that is an extension. -/
  | extensionSkipped (path : String)
  /-- An operation that opted out. -/
  | operationExcluded (method path : String)
  /-- A severity in a bare mapping that is none. -/
  | severityInvalid (value : Value) (rule : String)
  /-- The number of findings at the end of a run. -/
  | totals (errors warnings : Nat)
  /-- A source that was read, before it is parsed. -/
  | sourceRead (characters : Nat) (source : String) (hint : String)
  /-- The configuration file of a run. -/
  | configFile (path : String)
  /-- A run without configuration file. -/
  | configDefaults

/-- How important an event is. -/
inductive LogLevel
  | debug
  | warning
deriving DecidableEq

namespace LogLevel

/-- The name of a level. -/
def name : LogLevel → String
  | .debug => "DEBUG"
  | .warning => "WARNING"

end LogLevel

namespace LogEvent

/-- How important an event is. -/
def level : LogEvent → LogLevel
  | .severityInvalid .. => .warning
  | _ => .debug

/-- The part of the program that records an event. -/
def logger : LogEvent → String
  | .extensionSkipped .. | .operationExcluded .. => "speclint.parser.extractor"
  | .severityInvalid .. | .totals .. => "speclint.validation.engine"
  | .sourceRead .. => "speclint.parser.loader"
  | .configFile .. | .configDefaults => "speclint.config"

/-- The wording of an event. -/
def message : LogEvent → Except Fault String
  | .extensionSkipped path => .ok ("Skipping extension path entry '" ++ path ++ "'")
  | .operationExcluded method path =>
    .ok ("Skipping excluded operation " ++ method.toUpper ++ " " ++ path)
  | .severityInvalid value rule => do
    return "Invalid severity " ++ (← value.literal) ++ " for rule '" ++ rule ++
      "'; treating as 'off'"
  | .totals errors warnings =>
    .ok ("operations: " ++ Decimal.ofNat errors ++ " error(s), " ++ Decimal.ofNat warnings ++
      " warning(s)")
  | .sourceRead characters source hint =>
    .ok ("Read " ++ Decimal.ofNat characters ++ " characters from " ++ source ++
      " (format hint: " ++ hint ++ ")")
  | .configFile path => .ok ("Using config file " ++ path)
  | .configDefaults => .ok "No config file found; using defaults"

/-- An event as a line of a log. -/
def line (e : LogEvent) : Except Fault String := do
  return e.level.name ++ " " ++ e.logger ++ ": " ++ (← e.message)

end LogEvent

end ApiLint
