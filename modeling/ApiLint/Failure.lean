import ApiLint.Fault

/-!
# Failures

What a run reports to the user and ends with, and the status with which it ends.
-/

namespace ApiLint

/-- The status with which a run ends. -/
inductive ExitCode
  | success
  /-- A problem with the configuration, or an internal error. -/
  | failure
  /-- Arguments that are not understood. -/
  | usage
  /-- At least one finding is an error. -/
  | findings
  /-- The document cannot be read or is not supported. -/
  | document
deriving DecidableEq

namespace ExitCode

/-- All statuses with their names. -/
def all : List (String × ExitCode) := [
  ("EXIT_SUCCESS", .success), ("EXIT_GENERIC_FAILURE", .failure), ("EXIT_INVALID_USAGE", .usage),
  ("EXIT_LINT_ERRORS", .findings), ("EXIT_SPEC_PARSE_ERROR", .document)]

/-- The number of a status. -/
def code : ExitCode → Int
  | .success => 0
  | .failure => 1
  | .usage => 2
  | .findings => 3
  | .document => 7

end ExitCode

/-- What a failure is about. -/
inductive FailureKind
  | general
  | document
  | configuration
deriving DecidableEq

namespace FailureKind

/-- The status with which a failure of a kind ends a run. -/
def exitCode : FailureKind → ExitCode
  | .document => .document
  | _ => .failure

end FailureKind

/-- A failure with its message. A code of its own replaces that of its kind. -/
structure Failure where
  kind : FailureKind
  message : String
  ownCode : Option Int := none

namespace Failure

/-- A document that cannot be used. -/
def document (message : String) : Failure := ⟨.document, message, none⟩

/-- A configuration that cannot be used. -/
def configuration (message : String) : Failure := ⟨.configuration, message, none⟩

/-- The number with which a failure ends a run. -/
def exitCode (f : Failure) : Int := f.ownCode.getD f.kind.exitCode.code

end Failure

end ApiLint
