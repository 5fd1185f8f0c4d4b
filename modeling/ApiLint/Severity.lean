/-!
# Severities

What becomes of the findings of a rule.
-/

namespace ApiLint

/-- What becomes of the findings of a rule; a rule that is `off` is not applied. -/
inductive Severity
  | error
  | warning
  | off
deriving DecidableEq, Inhabited

namespace Severity

/-- All severities. -/
def all : List Severity := [.error, .warning, .off]

/-- The name of a severity. -/
def name : Severity → String
  | .error => "error"
  | .warning => "warning"
  | .off => "off"

/-- The severity with a name. -/
def ofName? (s : String) : Option Severity := all.find? fun severity => severity.name == s

end Severity

end ApiLint
