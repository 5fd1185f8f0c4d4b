import ApiLint.Proofs.Issues

/-!
# Routing by severity

Settings decide only into which list a finding goes. The lists of any run are cut out of one list,
the errors of the run in which every rule is an error: the findings of the rules that count as
errors, and those of the rules that count as warnings, both in the order of that list.

* `message_injective` — a message names its rule, so a finding tells which rule it comes from;
* `sort_eq_filter` — sorting issues is filtering their findings by the severity of the message;
* `runWith_routes` — every run is cut out of the run with errors only.
-/

namespace ApiLint

open Outcome

namespace Rule

theorem mem_all (rule : Rule) : rule ∈ all := by
  cases rule <;> decide

theorem message_injective : Function.Injective message := by
  have hAll : ∀ a ∈ all, ∀ b ∈ all, a.message = b.message → a = b := by decide
  intro a b h
  exact hAll a (mem_all a) b (mem_all b) h

end Rule

namespace Severities

@[simp] theorem const_of (severity : Severity) (rule : Rule) :
    (const severity).of rule = severity :=
  of_ofFun _ rule

theorem active_const_error : (const .error).active = Rule.all := by
  rw [active, List.filter_eq_self]
  intro rule _
  rw [const_of]
  rfl

end Severities

namespace Lint

/-- Whether the message of a finding belongs to a rule of a severity. -/
def assigns (settings : Settings) (severity : Severity) (f : Finding) : Bool :=
  Rule.all.any fun rule =>
    rule.message == f.message && (severitiesOf settings).of rule == severity

/-- The message of an issue belongs to the rule of the issue. -/
theorem assigns_finding (settings : Settings) (severity : Severity) (i : Issue) :
    assigns settings severity i.finding = ((severitiesOf settings).of i.rule == severity) := by
  rw [Bool.eq_iff_iff, assigns, List.any_eq_true]
  simp only [Bool.and_eq_true, beq_iff_eq]
  constructor
  · rintro ⟨rule, -, hMessage, hSeverity⟩
    rw [← Rule.message_injective hMessage]
    exact hSeverity
  · intro hSeverity
    exact ⟨i.rule, Rule.mem_all _, rfl, hSeverity⟩

theorem map_finding_filter (settings : Settings) (severity : Severity) (is : List Issue) :
    (is.map Issue.finding).filter (assigns settings severity) =
      (is.filter fun i => (severitiesOf settings).of i.rule == severity).map Issue.finding := by
  rw [List.filter_map]
  congr 2
  funext i
  exact assigns_finding settings severity i

/-- Sorting issues is filtering their findings by what the settings say about the message. -/
theorem sort_eq_filter (settings : Settings) (is : List Issue) :
    sort (severitiesOf settings) is =
      ⟨(is.map Issue.finding).filter (assigns settings .error),
        (is.map Issue.finding).filter (assigns settings .warning)⟩ := by
  rw [map_finding_filter, map_finding_filter]
  rfl

/-- Issues of rules that are off make no difference to sorting. -/
theorem sort_filter_active (severities : Severities) (is : List Issue) :
    sort severities (is.filter fun i => severities.of i.rule ≠ .off) = sort severities is := by
  rw [sort, sort, List.filter_filter, List.filter_filter]
  congr 2
  · apply List.filter_congr
    intro i _
    cases severities.of i.rule <;> rfl
  · apply List.filter_congr
    intro i _
    cases severities.of i.rule <;> rfl

/-- With errors only, the errors are the findings of all issues and there are no warnings. -/
theorem run_const_error {document : Entries} {all : Findings}
    (h : run document (.const .error) = .ok all) :
    ∃ is, issues document Rule.all = .ok is ∧ all = ⟨is.map Issue.finding, []⟩ := by
  obtain ⟨is, hIs, rfl⟩ := run_eq_ok.mp h
  rw [Severities.active_const_error] at hIs
  refine ⟨is, hIs, ?_⟩
  simp [sort]

/-- If all rules can be applied to a document, every run on it sorts the issues of all rules. -/
theorem run_of_issues_all {document : Entries} {is : List Issue}
    (h : issues document Rule.all = .ok is) (severities : Severities) :
    run document severities = .ok (sort severities is) := by
  refine run_eq_ok.mpr ⟨_, issues_filter (fun rule => severities.of rule ≠ .off) h, ?_⟩
  exact sort_filter_active severities is

/-- **Routing.** If the run with errors only completes, every run does, and its two lists are that
run's errors filtered by the severity of the rule that the message names. Nothing is lost, doubled
or moved, and what comes from a rule that is off is in neither list. -/
theorem runWith_routes {document : Entries} {all : Findings}
    (hAll : runWith document (.model (.const .error)) = .ok all) (settings : Settings) :
    Function.Injective Rule.message ∧
      ∃ found, runWith document settings = .ok found ∧
        found.errors = all.errors.filter (assigns settings .error) ∧
        found.warnings = all.errors.filter (assigns settings .warning) ∧
        ∀ f ∈ found.errors ++ found.warnings, assigns settings .off f = false := by
  obtain ⟨is, hIs, rfl⟩ := run_const_error hAll
  refine ⟨Rule.message_injective, sort (severitiesOf settings) is, ?_, ?_, ?_, ?_⟩
  · rw [runWith_eq_run]
    exact run_of_issues_all hIs _
  · rw [sort_eq_filter]
  · rw [sort_eq_filter]
  · intro f hf
    -- a finding of either list reports an issue whose rule has the severity of that list
    obtain ⟨i, hSeverity, rfl⟩ : ∃ i : Issue,
        (severitiesOf settings).of i.rule ≠ .off ∧ i.finding = f := by
      rcases List.mem_append.mp hf with hf | hf
      · obtain ⟨i, hi, rfl⟩ := List.mem_map.mp hf
        have := (List.mem_filter.mp hi).2
        exact ⟨i, fun hOff => by simp [hOff] at this, rfl⟩
      · obtain ⟨i, hi, rfl⟩ := List.mem_map.mp hf
        have := (List.mem_filter.mp hi).2
        exact ⟨i, fun hOff => by simp [hOff] at this, rfl⟩
    rw [assigns_finding, beq_eq_false_iff_ne]
    exact hSeverity

/-- Two operations, one of which answers with an array. -/
def routedDocument : Entries := [
  (.str "paths", .map [
    (.str "/pets", .map [
      (.str "get", .map [
        (.str "consumes", .list []),
        (.str "responses", .map [
          (.int 200, .map [(.str "schema", .map [(.str "type", .str "array")])])])]),
      (.str "put", .map [(.str "summary", .str "Replace a pet")])])])]

/-- What all rules find in it. -/
def routedFindings : List Finding := [
  ⟨"paths./pets.get.consumes", Rule.readConsumes.message⟩,
  ⟨"paths./pets.get.produces", Rule.produces.message⟩,
  ⟨"paths./pets.get.operationId", Rule.operationId.message⟩,
  ⟨"paths./pets.get.summary", Rule.summary.message⟩,
  ⟨"paths./pets.get.responses.200.schema", Rule.arrayResponse.message⟩,
  ⟨"paths./pets.put.consumes", Rule.writeConsumes.message⟩,
  ⟨"paths./pets.put.produces", Rule.produces.message⟩,
  ⟨"paths./pets.put.operationId", Rule.operationId.message⟩]

/-- A bare mapping that makes missing identifiers warnings and arrays errors. What it says about
summaries is no severity. -/
def routedSettings : Settings := .mapping [
  (.str Rule.operationId.key, .str "warning"), (.str Rule.arrayResponse.key, .str "error"),
  (.str Rule.summary.key, .str "Error")]

theorem runWith_routes_bare_mapping :
    runWith routedDocument (.model (.const .error)) = .ok ⟨routedFindings, []⟩ ∧
      ∃ found, runWith routedDocument routedSettings = .ok found ∧
        found.errors = [⟨"paths./pets.get.responses.200.schema", Rule.arrayResponse.message⟩] ∧
        found.warnings = [⟨"paths./pets.get.operationId", Rule.operationId.message⟩,
          ⟨"paths./pets.put.operationId", Rule.operationId.message⟩] := by
  have hAll : runWith routedDocument (.model (.const .error)) = .ok ⟨routedFindings, []⟩ := by
    decide +kernel
  obtain ⟨-, found, hFound, hErrors, hWarnings, -⟩ := runWith_routes hAll routedSettings
  refine ⟨hAll, found, hFound, hErrors.trans ?_, hWarnings.trans ?_⟩
  · decide +kernel
  · decide +kernel

end Lint

end ApiLint
