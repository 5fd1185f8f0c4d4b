import ApiLint.Config
import ApiLint.Rule.Check

/-!
# Checking a document

A run passes over the operations of a document, applies every rule that is not off to each of them
and puts what a rule finds into the list of the rule's severity.

* `Lint.run` is the passage, with the two lists as its state;
* `Lint.runMapping` takes the severities from a bare mapping, in which what is missing or is no
  severity counts as off, and `Lint.runWith` takes either kind of `Settings`;
* `Issue` is a finding with its origin: the operation, the rule and the position in the rule's list;
* `Lint.issues` lists the issues of a document in the order of operations and rules.
-/

namespace ApiLint

/-- A finding with its origin. -/
structure Issue where
  operation : Operation
  rule : Rule
  /-- The position among the places that the rule found in the operation. -/
  index : Nat
  path : String

namespace Issue

/-- What is reported of an issue. -/
def finding (i : Issue) : Finding := ⟨i.path, i.rule.message⟩

end Issue

/-- What a run is told about severities: a complete assignment or a bare mapping. -/
inductive Settings
  | model (severities : Severities)
  | mapping (entries : Entries)

namespace Lint

/-- The issues of one rule in an operation. -/
def issuesOf (document : Entries) (op : Operation) (rule : Rule) : Except Fault (List Issue) := do
  return (← rule.places document op).zipIdx.map fun (path, index) => ⟨op, rule, index, path⟩

/-- The issues of some rules in an operation, rule by rule. -/
def issuesIn (document : Entries) (rules : List Rule) (op : Operation) :
    Except Fault (List Issue) := do
  return (← rules.mapM (issuesOf document op)).flatten

/-- The issues at an encounter. -/
def issuesAt (document : Entries) (rules : List Rule) (encounter : Except Fault Encounter) :
    Except Fault (List Issue) := do
  match (← encounter).operation? with
  | some op => issuesIn document rules op
  | none => return []

/-- The issues of some rules in a document, operation by operation. -/
def issues (document : Entries) (rules : List Rule) : Except Fault (List Issue) := do
  return (← (Operation.encounters document).mapM (issuesAt document rules)).flatten

/-- Issues sorted by the severity of their rule. -/
def sort (severities : Severities) (issues : List Issue) : Findings where
  errors := (issues.filter fun i => severities.of i.rule == .error).map Issue.finding
  warnings := (issues.filter fun i => severities.of i.rule == .warning).map Issue.finding

/-- Adds findings to the list of a severity. -/
def collect (collected : Findings) (severity : Severity) (found : List Finding) : Findings :=
  match severity with
  | .error => { collected with errors := collected.errors ++ found }
  | .warning => { collected with warnings := collected.warnings ++ found }
  | .off => collected

/-- Adds what the rules that are not off find in an operation, rule by rule. -/
def visit (document : Entries) (severities : Severities) (collected : Findings) (op : Operation) :
    Except Fault Findings :=
  severities.active.foldlM (fun collected rule => do
    return collect collected (severities.of rule) (← rule.check document op)) collected

/-- Adds what is found at an encounter. -/
def visitAt (document : Entries) (severities : Severities) (collected : Findings)
    (encounter : Except Fault Encounter) : Except Fault Findings := do
  match (← encounter).operation? with
  | some op => visit document severities collected op
  | none => return collected

/-- The findings in a document. -/
def run (document : Entries) (severities : Severities) : Except Fault Findings :=
  (Operation.encounters document).foldlM (visitAt document severities) Findings.empty

/-- The severity that a bare mapping gives a rule. -/
def severityIn (mapping : Entries) (rule : Rule) : Severity :=
  match mapping.field? rule.key with
  | some (.str s) => (Severity.ofName? s).getD .off
  | _ => .off

/-- The severities that a bare mapping gives. -/
def severitiesIn (mapping : Entries) : Severities := Severities.ofFun (severityIn mapping)

/-- Whether a value is a severity. -/
def isSeverity : Value → Bool
  | .str s => (Severity.ofName? s).isSome
  | _ => false

/-- The complaints about values in a bare mapping that are no severities, in the order of the
rules. -/
def complaints (mapping : Entries) : List LogEvent :=
  Rule.all.filterMap fun rule =>
    match mapping.field? rule.key with
    | some v => if isSeverity v then none else some (.severityInvalid v rule.key)
    | none => none

/-- The findings in a document, with severities from a bare mapping. -/
def runMapping (document mapping : Entries) : Except Fault Findings :=
  run document (severitiesIn mapping)

/-- The findings in a document, with settings of either kind. -/
def runWith (document : Entries) : Settings → Except Fault Findings
  | .model severities => run document severities
  | .mapping entries => runMapping document entries

/-- The severities that settings amount to. -/
def severitiesOf : Settings → Severities
  | .model severities => severities
  | .mapping entries => severitiesIn entries

theorem runWith_eq_run (document : Entries) (settings : Settings) :
    runWith document settings = run document (severitiesOf settings) := by
  cases settings <;> rfl

/-- What the log says about the passage over a document. -/
def passageEvents (document : Entries) : Except Fault (List LogEvent) := do
  return (← (Operation.encounters document).mapM id).filterMap Encounter.event?

/-- What the log says about a passage until it breaks off or ends. -/
def trail (document : Entries) (rules : List Rule) : List (Except Fault Encounter) → List LogEvent
  | [] => []
  | .error _ :: _ => []
  | .ok met :: rest =>
    met.event?.toList ++
      match issuesAt document rules (.ok met) with
      | .error _ => []
      | .ok _ => trail document rules rest

/-- What the log says about a run that found these findings. -/
def events (document : Entries) (found : Findings) : Except Fault (List LogEvent) := do
  return (← passageEvents document) ++ [.totals found.errors.length found.warnings.length]

end Lint

end ApiLint
