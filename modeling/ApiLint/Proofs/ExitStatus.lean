import ApiLint.Proofs.ConfigLoading
import ApiLint.Proofs.Issues
import ApiLint.Proofs.Preparation

/-!
# The exit status

A run that checks a document ends with 1 if it has no configuration, else with 7 if it has no
document of a supported version, else with 3 if it finds errors and with 0 if it finds none. How it
presents itself has no part in that, and neither have warnings.

* `Lint.errors_of_run` — the errors of a run are those of the rules that are errors;
* `Run.lint_out` — standard output under presentations that differ in how talkative they are;
* `LintRun.exit_status` — the status, by the first stage that fails, and what it does not depend on.
-/

namespace ApiLint

open Outcome

-- ---------------------------------------------------------------------------
-- Errors without warnings
-- ---------------------------------------------------------------------------

namespace Lint

variable {document : Entries} {severities severities' : Severities} {found found' : Findings}

/-- The errors of a run are what the rules that are errors find, as if there were no others. -/
theorem errors_of_run (h : run document severities = .ok found) :
    ∃ is, issues document (Rule.all.filter fun rule => severities.of rule == .error) = .ok is ∧
      found.errors = is.map Issue.finding := by
  obtain ⟨is, hIssues, rfl⟩ := run_eq_ok.mp h
  have hRules : (severities.active.filter fun rule => severities.of rule == .error) =
      Rule.all.filter fun rule => severities.of rule == .error := by
    rw [Severities.active, List.filter_filter]
    apply List.filter_congr
    intro rule _
    cases severities.of rule with
    | error => rfl
    | warning => rfl
    | off => rfl
  have hErrors := issues_filter (fun rule => severities.of rule == .error) hIssues
  rw [hRules] at hErrors
  exact ⟨_, hErrors, rfl⟩

/-- Severities that agree on the rules that are errors lead to the same errors. -/
theorem errors_eq_of_agree (h : run document severities = .ok found)
    (h' : run document severities' = .ok found')
    (hAgree : ∀ rule, severities.of rule = .error ↔ severities'.of rule = .error) :
    found.errors = found'.errors := by
  have hRules : (fun rule => severities.of rule == .error) =
      fun rule => severities'.of rule == .error := by
    funext rule
    rw [Bool.eq_iff_iff, beq_iff_eq, beq_iff_eq]
    exact hAgree rule
  obtain ⟨is, hIssues, hErrors⟩ := errors_of_run h
  obtain ⟨is', hIssues', hErrors'⟩ := errors_of_run h'
  rw [hRules, hIssues'] at hIssues
  cases hIssues
  rw [hErrors, hErrors']

end Lint

-- ---------------------------------------------------------------------------
-- What is written to standard output
-- ---------------------------------------------------------------------------

/-- Whether two presentations differ at most in how talkative they are. -/
def Presentation.AlikeOnOutput (p p' : Presentation) : Prop :=
  p.format = p'.format ∧ p.colour = p'.colour ∧ p.dumb = p'.dumb ∧ p.columns = p'.columns

theorem Report.output_eq {p p' : Presentation} (h : p.AlikeOnOutput p') (f : Findings) :
    output p f = output p' f := by
  obtain ⟨hFormat, hColour, hDumb, hColumns⟩ := h
  unfold output Presentation.table Presentation.styling
  rw [hFormat, hColour, hDumb, hColumns]

namespace Run

theorem lint_out {p p' : Presentation} (h : p.AlikeOnOutput p') (w : World) (source : String)
    (config : Option String) (errorsOnly : Bool) :
    (lint w p source config errorsOnly).out = (lint w p' source config errorsOnly).out := by
  have hStop : ∀ err err' t, (stop w p err t).out = (stop w p' err' t).out := by
    intro err err' t
    rw [(stop_parts w p err t).1, (stop_parts w p' err' t).1]
  unfold lint
  dsimp only
  cases (prepare w source config).result with
  | error t => exact hStop _ _ t
  | ok ready =>
    dsimp only
    cases Lint.run ready.document ready.config.operations with
    | error f => exact hStop _ _ (.fault f)
    | ok found => exact Report.output_eq h _

/-- Being quiet or verbose has no part in what standard output receives. -/
theorem presentation_alike {globals globals' : List GlobalOption}
    (h : ∀ g, g ≠ .quiet → g ≠ .verbose → (g ∈ globals ↔ g ∈ globals')) (w : World) :
    (presentation w globals).AlikeOnOutput (presentation w globals') := by
  have hContains : ∀ g, g ≠ .quiet → g ≠ .verbose → globals.contains g = globals'.contains g := by
    intro g hQuiet hVerbose
    rw [Bool.eq_iff_iff, List.contains_iff_mem, List.contains_iff_mem]
    exact h g hQuiet hVerbose
  have hJson := hContains .json (by decide) (by decide)
  have hPlain := hContains .plain (by decide) (by decide)
  have hColour := hContains .noColour (by decide) (by decide)
  unfold presentation Presentation.choose presentationOptions
  rw [hJson, hPlain, hColour]
  exact ⟨rfl, rfl, rfl, rfl⟩

end Run

-- ---------------------------------------------------------------------------
-- The status by stages
-- ---------------------------------------------------------------------------

namespace LintRun

/-- No trouble escapes from the run. -/
def Orderly (r : LintRun) : Prop := ∀ t, r.performance.ending ≠ .error t

/-- The run loads this document, and its version is supported. -/
def Loads (r : LintRun) (document : Entries) : Prop :=
  r.document = .ok document ∧ ∃ version, DialectVersion.of document = .ok version

variable {r r' : LintRun} {exit exit' : ExitCode}

theorem Orderly.ending (h : r.Orderly) : ∃ exit, r.performance.ending = .ok exit := by
  cases hEnding : r.performance.ending with
  | ok exit => exact ⟨exit, rfl⟩
  | error t => exact absurd hEnding (h t)

/-- A run that is broken off in a stage ends as that stage has it. -/
theorem exit_of_prepare {t : Trouble} {kind : FailureKind}
    (hPrepare : (Run.prepare r.world r.source r.config).result = .error t)
    (hAbout : t.About kind) (h : r.performance.ending = .ok exit) : exit = kind.exitCode := by
  rw [ending_eq, Run.endingBy_of_error hPrepare] at h
  exact Run.endingOf_eq_ok hAbout h

theorem exit_of_no_configuration {t : Trouble} (hConfig : r.configuration = .error t)
    (h : r.performance.ending = .ok exit) : exit = .failure :=
  exit_of_prepare (Run.prepare_eq_error.mpr (.inl hConfig)) (Discovery.about_of_load hConfig) h

theorem exit_of_no_document {c : Config} (hConfig : r.configuration = .ok c)
    (hNone : ∀ d, ¬ r.Loads d) (h : r.performance.ending = .ok exit) : exit = .document := by
  -- the document is not there, or its version is not supported
  cases hDocument : r.document with
  | error t =>
    have hPrepare := Run.prepare_eq_error.mpr (.inr ⟨c, hConfig, .inl hDocument⟩)
    exact exit_of_prepare hPrepare (Source.about_of_load hDocument) h
  | ok document =>
    cases hVersion : DialectVersion.of document with
    | error e =>
      have hPrepare := Run.prepare_eq_error.mpr
        (.inr ⟨c, hConfig, .inr ⟨document, hDocument, e, hVersion, rfl⟩⟩)
      exact exit_of_prepare hPrepare (Trouble.about_ofDialect e) h
    | ok version => exact absurd ⟨hDocument, version, hVersion⟩ (hNone document)

theorem exit_of_document {c : Config} {d : Entries} (hConfig : r.configuration = .ok c)
    (hLoads : r.Loads d) (h : r.performance.ending = .ok exit) :
    ∃ found, Lint.run d c.operations = .ok found ∧
      exit = if found.errors = [] then .success else .findings := by
  obtain ⟨hDocument, version, hVersion⟩ := hLoads
  have hPrepare : (Run.prepare r.world r.source r.config).result = .ok ⟨c, d, version⟩ :=
    Run.prepare_eq_ok.mpr ⟨hConfig, hDocument, hVersion⟩
  rw [ending_eq, Run.endingBy, hPrepare] at h
  dsimp only at h
  cases hRun : Lint.run d c.operations with
  | error f =>
    rw [hRun] at h
    cases h
  | ok found =>
    rw [hRun] at h
    cases h
    refine ⟨found, rfl, ?_⟩
    unfold Run.statusOf Findings.hasErrors
    cases found.errors with
    | nil => rfl
    | cons f fs => rfl

-- ---------------------------------------------------------------------------
-- Two runs
-- ---------------------------------------------------------------------------

/-- Runs in one world on one source and with one configuration end alike. -/
theorem ending_eq_of_same (hWorld : r'.world = r.world) (hSource : r'.source = r.source)
    (hConfig : r'.config = r.config) : r'.performance.ending = r.performance.ending := by
  rw [ending_eq, ending_eq, hWorld, hSource, hConfig]

/-- If they differ at most in how talkative they are, they write the same to standard output. -/
theorem out_eq_of_same (hWorld : r'.world = r.world) (hSource : r'.source = r.source)
    (hConfig : r'.config = r.config) (hErrorsOnly : r'.errorsOnly = r.errorsOnly)
    (hGlobals : ∀ g, g ≠ .quiet → g ≠ .verbose → (g ∈ r'.globals ↔ g ∈ r.globals)) :
    r'.performance.out = r.performance.out := by
  unfold performance LintRun.presentation
  rw [hWorld, hSource, hConfig, hErrorsOnly]
  exact Run.lint_out (Run.presentation_alike hGlobals r.world) _ _ _ _

/-- Runs on one document under configurations with the same errors have the same status. -/
theorem exit_eq_of_agree {c c' : Config} {d : Entries} (hConfig : r.configuration = .ok c)
    (hConfig' : r'.configuration = .ok c') (hLoads : r.Loads d) (hLoads' : r'.Loads d)
    (hAgree : ∀ rule, c.operations.of rule = .error ↔ c'.operations.of rule = .error)
    (h : r.performance.ending = .ok exit) (h' : r'.performance.ending = .ok exit') :
    exit' = exit := by
  obtain ⟨found, hRun, rfl⟩ := exit_of_document hConfig hLoads h
  obtain ⟨found', hRun', rfl⟩ := exit_of_document hConfig' hLoads' h'
  rw [Lint.errors_eq_of_agree hRun hRun' hAgree]

/-- **The exit status of a run** from which no trouble escapes. It is 1 without a configuration,
whatever the source; otherwise 7 without a document of a supported version; otherwise 3 or 0, as
there are errors or none. The options that are about presentation have no part in it, quiet and
verbose runs write the same to standard output, and warnings have no part in the status: it stays
the same when rules that are no errors change between being warnings and being off. -/
theorem exit_status (hOrderly : r.Orderly) :
    ∃ out err exit, r.outcome = .finished out err r.world.files exit ∧
      ((∃ t, r.configuration = .error t) → exit.code = 1) ∧
      ((∃ c, r.configuration = .ok c) → (∀ d, ¬ r.Loads d) → exit.code = 7) ∧
      (∀ c d, r.configuration = .ok c → r.Loads d →
        ∃ found, Lint.run d c.operations = .ok found ∧
          exit.code = if found.errors = [] then 0 else 3) ∧
      (∀ r' : LintRun, r'.world = r.world → r'.source = r.source → r'.config = r.config →
        ∃ out' err', r'.outcome = .finished out' err' r.world.files exit ∧
          (r'.errorsOnly = r.errorsOnly →
            (∀ g, g ≠ .quiet → g ≠ .verbose → (g ∈ r'.globals ↔ g ∈ r.globals)) → out' = out)) ∧
      ∀ r' : LintRun, r'.Orderly → ∀ c c' d, r.configuration = .ok c → r'.configuration = .ok c' →
        r.Loads d → r'.Loads d →
        (∀ rule, c.operations.of rule = .error ↔ c'.operations.of rule = .error) →
        ∃ out' err', r'.outcome = .finished out' err' r'.world.files exit := by
  obtain ⟨exit, hEnding⟩ := hOrderly.ending
  refine ⟨_, _, exit, outcome_of_ending hEnding, ?_, ?_, ?_, ?_, ?_⟩
  · rintro ⟨t, hConfig⟩
    rw [exit_of_no_configuration hConfig hEnding]
    rfl
  · rintro ⟨c, hConfig⟩ hNone
    rw [exit_of_no_document hConfig hNone hEnding]
    rfl
  · intro c d hConfig hLoads
    obtain ⟨found, hRun, rfl⟩ := exit_of_document hConfig hLoads hEnding
    refine ⟨found, hRun, ?_⟩
    split
    · rfl
    · rfl
  · intro r' hWorld hSource hConfig
    have hEnding' := (ending_eq_of_same hWorld hSource hConfig).trans hEnding
    refine ⟨_, _, hWorld ▸ outcome_of_ending hEnding', ?_⟩
    intro hErrorsOnly hGlobals
    exact out_eq_of_same hWorld hSource hConfig hErrorsOnly hGlobals
  · intro r' hOrderly' c c' d hConfig hConfig' hLoads hLoads' hAgree
    obtain ⟨exit', hEnding'⟩ := hOrderly'.ending
    obtain rfl := exit_eq_of_agree hConfig hConfig' hLoads hLoads' hAgree hEnding hEnding'
    exact ⟨_, _, outcome_of_ending hEnding'⟩

/-- A project whose configuration makes a missing summary an error, and a document without one at
standard input. Its other findings are warnings. -/
def projectWorld : World :=
  let config := "\x7b\"operations\": \x7b\"no_summary\": \"error\", \"no_produces\": \"off\"\x7d\x7d"
  { World.holding [(ConfigFile.projectName, Text.Utf8.encode config.toList)] with
    input := Text.Utf8.encode "swagger: '2.0'\npaths: \x7b/: \x7bget: \x7b\x7d\x7d\x7d\n".toList }

def verboseRun : LintRun where
  world := projectWorld
  args := ["--json", "-v", "lint", "-e", "-"]
  globals := [.json, .verbose]
  source := "-"
  config := none
  errorsOnly := true
  asked := by decide +kernel

def quietRun : LintRun where
  world := projectWorld
  args := ["-q", "--json", "lint", "-", "--errors-only"]
  globals := [.quiet, .json]
  source := "-"
  config := none
  errorsOnly := true
  asked := by decide +kernel

theorem exit_status_verbose :
    verboseRun.Orderly ∧ ∃ out err err',
      verboseRun.outcome = .finished out err projectWorld.files .findings ∧
        quietRun.outcome = .finished out err' projectWorld.files .findings := by
  have hEnding : verboseRun.performance.ending = .ok .findings := by
    apply eq_ok_of_toOption
    decide +kernel
  have hOrderly : verboseRun.Orderly := by
    intro t h
    rw [hEnding] at h
    cases h
  obtain ⟨out, err, exit, hOutcome, -, -, -, hSame, -⟩ := exit_status hOrderly
  obtain rfl := exit_of_outcome hEnding hOutcome
  obtain ⟨out', err', hOutcome', hOut⟩ := hSame quietRun rfl rfl rfl
  have hGlobals : ∀ g, g ≠ .quiet → g ≠ .verbose →
      (g ∈ quietRun.globals ↔ g ∈ verboseRun.globals) := by
    intro g
    cases g <;> decide
  rw [hOut rfl hGlobals] at hOutcome'
  exact ⟨hOrderly, out, err, err', hOutcome, hOutcome'⟩

end LintRun

end ApiLint
