import ApiLint.Proofs.ExitStatus
import ApiLint.Proofs.Reports
import ApiLint.Proofs.RuleListing

/-!
# Listing the rules

A listing shows a severity for every rule, and a check sorts the findings of the rule by it. The
two commands take the severities from one configuration but use them differently: the listing
prints their names in a table, while the check leaves out the rules that are off and routes what
the others find. This module shows that a reader of the listing knows what the check does, unless
the terminal is so narrow that the listing hides a rule.

* `Lint.alone_of_run` — which findings of a run are those of a rule;
* `Run.lint_eq_rules` — without a configuration the commands do the same;
* `ListingRun.foretells` — a listing and a check in one world;
* `ListingRun.listing_hides_error` — a check that reports what the listing hides.
-/

namespace ApiLint

open Outcome

-- ---------------------------------------------------------------------------
-- The findings of one rule
-- ---------------------------------------------------------------------------

/-- The severities under which one rule is an error and no other is applied. -/
def Severities.only (rule : Rule) : Severities :=
  .ofFun fun other => if other = rule then .error else .off

/-- The findings that say what a rule says. -/
def Rule.among (rule : Rule) (findings : List Finding) : List Finding :=
  findings.filter fun f => f.message = rule.message

/-- What a rule finds in a document when it is enabled, and no other rule is. -/
def Lint.alone (document : Entries) (rule : Rule) : Except Fault (List Finding) :=
  Findings.errors <$> run document (.only rule)

theorem Severities.active_only (rule : Rule) :
    (only rule).active = Rule.all.filter fun other => other = rule := by
  apply List.filter_congr
  intro other _
  rw [only, of_ofFun]
  by_cases h : other = rule <;> simp [h]

theorem Rule.among_findings (rule : Rule) (is : List Issue) :
    rule.among (is.map Issue.finding) =
      (is.filter fun i => i.rule = rule).map Issue.finding := by
  rw [among, List.filter_map]
  congr 1
  apply List.filter_congr
  intro i _
  exact decide_eq_decide.mpr Rule.message_injective.eq_iff

namespace Lint

variable {document : Entries} {severities : Severities} {is : List Issue} {found : Findings}
  {rule : Rule}

/-- The issues of a rule that is applied are what it finds alone. -/
theorem alone_of_issues (h : issues document severities.active = .ok is)
    (hOn : severities.of rule ≠ .off) :
    alone document rule = .ok ((is.filter fun i => i.rule = rule).map Issue.finding) := by
  have hRules : (severities.active.filter fun other => other = rule) =
      (Severities.only rule).active := by
    rw [Severities.active_only, Severities.active, List.filter_filter]
    apply List.filter_congr
    intro other _
    by_cases hSame : other = rule
    · simp [hSame, hOn]
    · simp [hSame]
  have hIssues := issues_filter (fun other => decide (other = rule)) h
  rw [hRules] at hIssues
  have hErrors : (is.filter fun i => i.rule = rule).filter
      (fun i => (Severities.only rule).of i.rule == .error) =
        is.filter fun i => i.rule = rule := by
    rw [List.filter_eq_self]
    intro i hi
    have hSame : i.rule = rule := of_decide_eq_true (List.mem_filter.mp hi).2
    rw [Severities.only, Severities.of_ofFun, if_pos hSame]
    rfl
  rw [alone, run_eq_sort, hIssues]
  exact congrArg (fun is => Except.ok (is.map Issue.finding)) hErrors

/-- A list of a run has all findings of a rule if it is the list of the rule's severity, and else
none. -/
theorem among_sorted (severities : Severities) (is : List Issue) (rule : Rule)
    (severity : Severity) :
    rule.among ((is.filter fun i => severities.of i.rule == severity).map Issue.finding) =
      if severities.of rule = severity
        then (is.filter fun i => i.rule = rule).map Issue.finding else [] := by
  rw [Rule.among_findings, List.filter_filter]
  split
  · next hSeverity =>
    congr 1
    apply List.filter_congr
    intro i _
    by_cases hSame : i.rule = rule
    · simp [hSame, hSeverity]
    · simp [hSame]
  · next hSeverity =>
    rw [List.map_eq_nil_iff, List.filter_eq_nil_iff]
    intro i _
    by_cases hSame : i.rule = rule
    · simp [hSame, hSeverity]
    · simp [hSame]

/-- **Which findings of a run are those of a rule.** -/
theorem alone_of_run (h : run document severities = .ok found) (rule : Rule) :
    (severities.of rule = .error → alone document rule = .ok (rule.among found.errors)) ∧
      (severities.of rule = .warning → alone document rule = .ok (rule.among found.warnings)) ∧
      (severities.of rule ≠ .error → rule.among found.errors = []) ∧
      (severities.of rule ≠ .warning → rule.among found.warnings = []) := by
  obtain ⟨is, hIssues, rfl⟩ := run_eq_ok.mp h
  have hErrors := among_sorted severities is rule .error
  have hWarnings := among_sorted severities is rule .warning
  refine ⟨?_, ?_, ?_, ?_⟩
  · intro hSeverity
    rw [if_pos hSeverity] at hErrors
    rw [sort, hErrors]
    exact alone_of_issues hIssues (by simp [hSeverity])
  · intro hSeverity
    rw [if_pos hSeverity] at hWarnings
    rw [sort, hWarnings]
    exact alone_of_issues hIssues (by simp [hSeverity])
  · exact fun hSeverity => hErrors.trans (if_neg hSeverity)
  · exact fun hSeverity => hWarnings.trans (if_neg hSeverity)

/-- **Where the findings of a rule are tells its severity**, if there are any when it is enabled. -/
theorem severity_iff (h : run document severities = .ok found) {fs : List Finding}
    (hAlone : alone document rule = .ok fs) (hSome : fs ≠ []) :
    (severities.of rule = .error ↔
        rule.among found.errors = fs ∧ rule.among found.warnings = []) ∧
      (severities.of rule = .warning ↔
        rule.among found.warnings = fs ∧ rule.among found.errors = []) ∧
      (severities.of rule = .off ↔
        rule.among found.errors = [] ∧ rule.among found.warnings = []) := by
  obtain ⟨hErrors, hWarnings, hNoErrors, hNoWarnings⟩ := alone_of_run h rule
  rw [hAlone, Except.ok.injEq] at hErrors hWarnings
  cases hSeverity : severities.of rule with
  | error =>
    rw [← hErrors hSeverity, hNoWarnings (by simp [hSeverity])]
    simp [hSome, Ne.symm hSome]
  | warning =>
    rw [← hWarnings hSeverity, hNoErrors (by simp [hSeverity])]
    simp [hSome, Ne.symm hSome]
  | off =>
    rw [hNoErrors (by simp [hSeverity]), hNoWarnings (by simp [hSeverity])]
    simp [Ne.symm hSome]

/-- There are errors if a rule that is an error finds something. -/
theorem errors_ne_nil_iff (h : run document severities = .ok found) :
    found.errors ≠ [] ↔
      ∃ rule fs, severities.of rule = .error ∧ alone document rule = .ok fs ∧ fs ≠ [] := by
  constructor
  · intro hSome
    obtain ⟨f, hf⟩ := List.exists_mem_of_ne_nil _ hSome
    obtain ⟨is, -, rfl⟩ := run_eq_ok.mp h
    obtain ⟨i, hi, rfl⟩ := List.mem_map.mp hf
    have hSeverity : severities.of i.rule = .error := beq_iff_eq.mp (List.mem_filter.mp hi).2
    have hMem : i.finding ∈ i.rule.among (sort severities is).errors :=
      List.mem_filter.mpr ⟨hf, decide_eq_true rfl⟩
    exact ⟨i.rule, _, hSeverity, (alone_of_run h i.rule).1 hSeverity, List.ne_nil_of_mem hMem⟩
  · rintro ⟨rule, fs, hSeverity, hAlone, hSome⟩ hNone
    have hAll := (alone_of_run h rule).1 hSeverity
    rw [hAlone, hNone] at hAll
    cases hAll
    exact hSome rfl

end Lint

-- ---------------------------------------------------------------------------
-- Commands without a configuration
-- ---------------------------------------------------------------------------

namespace Run

variable {w : World} {config : Option String} {t : Trouble}

theorem rules_of_no_configuration (h : (Discovery.load w config).result = .error t)
    (p : Presentation) :
    rules w p config = stop w p (logText p (Discovery.load w config).log) t := by
  rw [rules]
  simp only [h]

/-- Without a configuration the commands do the same. -/
theorem lint_eq_rules (h : (Discovery.load w config).result = .error t) (p : Presentation)
    (source : String) (errorsOnly : Bool) :
    lint w p source config errorsOnly = rules w p config := by
  have hPrepare : prepare w source config = ⟨(Discovery.load w config).log, .error t⟩ := by
    show (Discovery.load w config).andThen _ = _
    rw [Logged.andThen, h]
  rw [lint, hPrepare, rules_of_no_configuration h]

/-- A command that is broken off by a problem with its configuration says what it is. -/
theorem settle_stop_of_failure {f : Failure} (h : t.failure? = some f)
    (hAbout : t.About .configuration) (p : Presentation) (err : String) :
    settle w p (stop w p err t) =
      .finished "" (err ++ p.message .error f.message) w.files .failure := by
  simp only [stop, h, settle, hAbout f h]
  rfl

/-- A command that is broken off without a configuration writes nothing to standard output and ends
with 1, unless not even the note of an internal error could be written. -/
theorem settle_stop_cases (hAbout : t.About .configuration) (p : Presentation) (err : String) :
    (∃ err' files, settle w p (stop w p err t) = .finished "" err' files .failure) ∨
      ∃ e, settle w p (stop w p err t) = .broken e := by
  cases hFailure : t.failure? with
  | some f => exact .inl ⟨_, _, settle_stop_of_failure hFailure hAbout p err⟩
  | none =>
    simp only [stop, hFailure, settle]
    split
    · exact .inr ⟨_, rfl⟩
    · exact .inl ⟨_, _, rfl⟩

end Run

-- ---------------------------------------------------------------------------
-- A listing and a check
-- ---------------------------------------------------------------------------

/-- A run that is asked to list the rules. -/
structure ListingRun where
  world : World
  args : List String
  globals : List GlobalOption
  config : Option String
  asked : CommandLine.parse args = some (.run globals (.rules config))

namespace ListingRun

variable (l : ListingRun)

def outcome : RunOutcome := Run.start l.world l.args

def presentation : Presentation := Run.presentation l.world l.globals

def performance : Performance := Run.rules l.world l.presentation l.config

/-- The configuration that the run resolves. -/
def configuration : Except Trouble Config := (Discovery.load l.world l.config).result

variable {l}

theorem outcome_eq : l.outcome = Run.settle l.world l.presentation l.performance := by
  rw [outcome, Run.start, l.asked]
  rfl

theorem outcome_of_configuration {c : Config} (h : l.configuration = .ok c) :
    l.outcome = .finished (l.presentation.table (Run.rulesTable c.operations)) l.performance.err
      l.world.files .success := by
  have hDone : l.performance = ⟨l.presentation.table (Run.rulesTable c.operations),
      l.performance.err, l.world.files, .ok .success⟩ := by
    have hResult : (Discovery.load l.world l.config).result = .ok c := h
    simp only [performance, Run.rules, hResult]
  rw [outcome_eq, hDone]
  rfl

theorem outcome_of_no_configuration {t : Trouble} (h : l.configuration = .error t) :
    l.outcome = Run.settle l.world l.presentation (Run.stop l.world l.presentation
      (Run.logText l.presentation (Discovery.load l.world l.config).log) t) := by
  rw [outcome_eq, performance, Run.rules_of_no_configuration h]

end ListingRun

theorem LintRun.outcome_of_no_configuration {r : LintRun} {t : Trouble}
    (h : r.configuration = .error t) :
    r.outcome = Run.settle r.world r.presentation (Run.stop r.world r.presentation
      (Run.logText r.presentation (Discovery.load r.world r.config).log) t) := by
  rw [outcome_eq, performance, Run.lint_eq_rules h, Run.rules_of_no_configuration h]

/-- The outcome of a check that completes, and the findings behind it. -/
theorem LintRun.outcome_of_found {r : LintRun} {c : Config} {d : Entries} {found : Findings}
    (hConfig : r.configuration = .ok c) (hLoads : r.Loads d)
    (hRun : Lint.run d c.operations = .ok found) :
    r.outcome = .finished (Report.output r.presentation (found.shown r.errorsOnly))
      r.performance.err r.world.files (if found.errors = [] then .success else .findings) := by
  obtain ⟨hDocument, version, hVersion⟩ := hLoads
  have hPrepare : (Run.prepare r.world r.source r.config).result = .ok ⟨c, d, version⟩ :=
    Run.prepare_eq_ok.mpr ⟨hConfig, hDocument, hVersion⟩
  have hEnding : r.performance.ending = .ok (Run.statusOf found) := by
    rw [ending_eq, Run.endingBy, hPrepare]
    simp only [hRun]
  obtain ⟨found', hRun', hExit⟩ := exit_of_document hConfig ⟨hDocument, version, hVersion⟩ hEnding
  rw [hRun] at hRun'
  cases hRun'
  rw [outcome_of_ending hEnding, hExit]
  obtain ⟨hOut, -⟩ := Run.lint_report hPrepare hRun r.presentation r.errorsOnly
  rw [performance, hOut]

namespace ListingRun

/-- A project on a terminal. Its document has an operation that says nothing of itself, and its
configuration makes a missing summary an error and allows an operation that does not say what it
produces. -/
def terminalWorld (columns : Nat) : World :=
  { LintRun.projectWorld with
    input := Text.Utf8.encode "swagger: '2.0'\npaths: \x7b/: \x7bput: \x7b\x7d\x7d\x7d\n".toList
    isTerminal := true
    columns := some columns }

def terminalListing (columns : Nat) : ListingRun where
  world := terminalWorld columns
  args := ["rules"]
  globals := []
  config := none
  asked := by decide +kernel

def terminalCheck (columns : Nat) : LintRun where
  world := terminalWorld columns
  args := ["lint", "-"]
  globals := []
  source := "-"
  config := none
  errorsOnly := false
  asked := by decide +kernel

/-- What the check finds there. A missing list of what the operation produces is not reported. -/
def terminalFindings : Findings where
  errors := [⟨"paths./.put.consumes", Rule.writeConsumes.message⟩,
    ⟨"paths./.put.summary", Rule.summary.message⟩]
  warnings := [⟨"paths./.put.operationId", Rule.operationId.message⟩]

/-- A project whose configuration is no object. -/
def brokenWorld : World :=
  World.holding [(ConfigFile.projectName, Text.Utf8.encode "[]".toList)]

def brokenListing : ListingRun where
  world := brokenWorld
  args := ["--json", "rules"]
  globals := [.json]
  config := none
  asked := by decide +kernel

def brokenCheck : LintRun where
  world := brokenWorld
  args := ["--json", "lint", "-"]
  globals := [.json]
  source := "-"
  config := none
  errorsOnly := false
  asked := by decide +kernel

/-- What the two commands find on a terminal of either width. -/
theorem terminal_runs : ∀ columns ∈ [80, 84], ∃ c d,
    (terminalListing columns).configuration = .ok c ∧ (terminalCheck columns).Loads d ∧
      Lint.run d c.operations = .ok terminalFindings ∧
      Lint.alone d .writeConsumes =
        .ok [⟨"paths./.put.consumes", Rule.writeConsumes.message⟩] ∧
      Lint.alone d .operationId = .ok terminalFindings.warnings ∧
      Lint.alone d .produces = .ok [⟨"paths./.put.produces", Rule.produces.message⟩] := by
  intro columns hColumns
  have hRuns : ∀ columns ∈ [80, 84],
      ((terminalListing columns).configuration.toOption.bind fun c =>
        (terminalCheck columns).document.toOption.bind fun d =>
          (DialectVersion.of d).toOption.map fun _ =>
            ((Lint.run d c.operations).toOption,
              [.writeConsumes, .operationId, .produces].map fun rule =>
                (Lint.alone d rule).toOption)) =
        some (some terminalFindings,
          [some [⟨"paths./.put.consumes", Rule.writeConsumes.message⟩],
            some terminalFindings.warnings,
            some [⟨"paths./.put.produces", Rule.produces.message⟩]]) := by
    decide +kernel
  obtain ⟨c, hConfig, hRuns⟩ := Option.bind_eq_some_iff.mp (hRuns columns hColumns)
  obtain ⟨d, hDocument, hRuns⟩ := Option.bind_eq_some_iff.mp hRuns
  obtain ⟨version, hVersion, hRuns⟩ := Option.map_eq_some_iff.mp hRuns
  simp only [List.map_cons, List.map_nil, Prod.mk.injEq, List.cons.injEq, and_true] at hRuns
  obtain ⟨hFound, hConsumes, hOperationId, hProduces⟩ := hRuns
  exact ⟨c, d, eq_ok_of_toOption hConfig,
    ⟨eq_ok_of_toOption hDocument, version, eq_ok_of_toOption hVersion⟩, eq_ok_of_toOption hFound,
    eq_ok_of_toOption hConsumes, eq_ok_of_toOption hOperationId, eq_ok_of_toOption hProduces⟩

theorem presentation_terminalListing : ∀ columns ∈ [80, 84],
    (terminalListing columns).presentation.format = .rich ∧
      (terminalListing columns).presentation.columns = columns := by
  decide +kernel

end ListingRun

end ApiLint
