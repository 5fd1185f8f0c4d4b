import ApiLint.Finding
import ApiLint.Presentation
import ApiLint.Severity

/-!
# The report of a run

The findings on standard output and a summary on standard error.

* `Report.rows` lists the findings, errors first, and `Report.tree` is the same as a JSON document;
* `Report.output` is what standard output receives, `Report.summary` what standard error does.
-/

namespace ApiLint

/-- The findings without the warnings. -/
def Findings.errorsOnly (f : Findings) : Findings := ⟨f.errors, []⟩

namespace Report

/-- How many findings there are, in words. -/
def summarize (errors warnings : Int) : String :=
  if errors = 0 ∧ warnings = 0 then "No problems found."
  else Decimal.ofInt errors ++ " error(s), " ++ Decimal.ofInt warnings ++ " warning(s)"

/-- The row of a finding. -/
def row (severity : Severity) (f : Finding) : List String := [severity.name, f.path, f.message]

/-- The rows of all findings, errors first. -/
def rows (f : Findings) : List (List String) :=
  f.errors.map (row .error) ++ f.warnings.map (row .warning)

/-- The findings as a table. -/
def table (f : Findings) : Table :=
  ⟨some "Findings", [Table.severityHeader, "Path", "Message"], rows f⟩

/-- A finding as a JSON object. -/
def findingTree (f : Finding) : Json.Tree :=
  .obj [("path", .str f.path), ("message", .str f.message)]

/-- The findings as a JSON document. -/
def tree (f : Findings) : Json.Tree :=
  .obj [("errors", .arr (f.errors.map findingTree)),
    ("warnings", .arr (f.warnings.map findingTree))]

/-- What standard output receives. A JSON document is written in any case, a table only if there are
findings. -/
def output (p : Presentation) (f : Findings) : String :=
  match p.format with
  | .json => (tree f).render ++ "\n"
  | _ => if (rows f).isEmpty then "" else p.table (table f)

/-- The kind of message that the summary is. -/
def summaryKind (f : Findings) : MessageKind :=
  if !f.errors.isEmpty then .error else if !f.warnings.isEmpty then .warning else .success

/-- What standard error receives. -/
def summary (p : Presentation) (f : Findings) : String :=
  p.message (summaryKind f) (summarize f.errors.length f.warnings.length)

end Report

end ApiLint
