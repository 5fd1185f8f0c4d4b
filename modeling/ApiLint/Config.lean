import ApiLint.Rule
import ApiLint.Severity
import ApiLint.Value

/-!
# Configurations

A configuration gives every rule a severity and keeps what it does not know about.

* `Severities` is the severity of every rule, `Severities.default` the shipped one;
* `Config` adds the sections that other checkers own;
* `Config.toValue` is the plain form, as a file holds it.
-/

namespace ApiLint

/-- The severity of every rule. -/
structure Severities where
  writeConsumes : Severity
  readConsumes : Severity
  produces : Severity
  operationId : Severity
  summary : Severity
  arrayResponse : Severity
  parameterOrder : Severity
deriving DecidableEq, Inhabited

namespace Severities

/-- The severity of a rule. -/
def of (s : Severities) : Rule → Severity
  | .writeConsumes => s.writeConsumes
  | .readConsumes => s.readConsumes
  | .produces => s.produces
  | .operationId => s.operationId
  | .summary => s.summary
  | .arrayResponse => s.arrayResponse
  | .parameterOrder => s.parameterOrder

/-- The severities that a function assigns. -/
def ofFun (f : Rule → Severity) : Severities where
  writeConsumes := f .writeConsumes
  readConsumes := f .readConsumes
  produces := f .produces
  operationId := f .operationId
  summary := f .summary
  arrayResponse := f .arrayResponse
  parameterOrder := f .parameterOrder

/-- The shipped severities. -/
def default : Severities where
  writeConsumes := .error
  readConsumes := .warning
  produces := .error
  operationId := .warning
  summary := .warning
  arrayResponse := .error
  parameterOrder := .warning

/-- The same severity for every rule. -/
def const (severity : Severity) : Severities := ofFun fun _ => severity

/-- The rules that are applied. -/
def active (s : Severities) : List Rule := Rule.all.filter fun rule => s.of rule ≠ .off

@[simp] theorem of_ofFun (f : Rule → Severity) (rule : Rule) : (ofFun f).of rule = f rule := by
  cases rule <;> rfl

theorem ofFun_of (s : Severities) : ofFun s.of = s := rfl

/-- The severities by their keys, in the order of the rules. -/
def toEntries (s : Severities) : Entries :=
  Rule.all.map fun rule => (.str rule.key, .str (s.of rule).name)

end Severities

/-- A configuration. -/
structure Config where
  operations : Severities
  /-- Sections of other checkers, as they were given. -/
  extras : Entries

namespace Config

/-- The section of the severities. -/
def operationsKey : String := "operations"

/-- The shipped configuration. -/
def default : Config := ⟨Severities.default, []⟩

/-- The plain form of a configuration. -/
def toValue (c : Config) : Value :=
  .map ((.str operationsKey, .map c.operations.toEntries) :: c.extras)

end Config

end ApiLint
