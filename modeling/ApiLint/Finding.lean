/-!
# Findings

A finding is a place in a document and what is wrong there. `Findings` keeps those of one run in two
lists, errors and warnings.
-/

namespace ApiLint

/-- One violation of a rule. -/
structure Finding where
  /-- The place, as keys joined by dots. -/
  path : String
  message : String
deriving DecidableEq, Inhabited

/-- The findings of a run. -/
structure Findings where
  errors : List Finding
  warnings : List Finding
deriving DecidableEq

namespace Findings

/-- No findings. -/
def empty : Findings := ⟨[], []⟩

/-- The findings of two runs, those of the first one first. -/
def append (a b : Findings) : Findings := ⟨a.errors ++ b.errors, a.warnings ++ b.warnings⟩

instance : Append Findings := ⟨append⟩

/-- Whether there is an error. -/
def hasErrors (f : Findings) : Bool := !f.errors.isEmpty

end Findings

end ApiLint
