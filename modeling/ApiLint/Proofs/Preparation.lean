import ApiLint.Cli.Run
import ApiLint.Proofs.Searches

/-!
# The stages of a run

A run that checks a document goes through stages: the configuration, the text of the source, the
document in it, its version, the findings. The first stage that fails decides how the run ends.

* `Run.result_prepare` — the stages before the findings, without their log;
* `Run.lint_parts` — the end of a run in terms of its stages alone;
* `Discovery.about_of_load`, `Source.about_of_load` — what a failure of a stage is about.
-/

namespace ApiLint

open Outcome

-- ---------------------------------------------------------------------------
-- Steps without their log
-- ---------------------------------------------------------------------------

namespace Logged

variable {α β : Type}

@[simp] theorem result_pure (x : α) : (pure x : Logged α).result = .ok x := rfl

@[simp] theorem result_ofExcept (result : Except Trouble α) :
    (ofExcept result).result = result := rfl

@[simp] theorem result_record (event : LogEvent) : (record event).result = .ok () := rfl

@[simp] theorem result_bind (a : Logged α) (next : α → Logged β) :
    (a >>= next).result = a.result >>= fun x => (next x).result := by
  show (a.andThen next).result = _
  unfold andThen
  cases a.result with
  | error t => rfl
  | ok x => rfl

end Logged

theorem Discovery.result_load (w : World) (given : Option String) :
    (load w given).result = match path? w given with
      | .error t => .error t
      | .ok none => .ok Config.default
      | .ok (some path) => ConfigFile.load w path := by
  rw [load, Logged.result_bind, Logged.result_ofExcept]
  cases path? w given with
  | error t => rfl
  | ok selected =>
    cases selected with
    | none => rfl
    | some path =>
      show (Logged.record (.configFile path.text) >>= fun _ =>
        Logged.ofExcept (ConfigFile.load w path)).result = _
      rw [Logged.result_bind, Logged.result_record]
      rfl

theorem Source.result_load (w : World) (name : String) :
    (load w name).result = ((ofText name).read w >>= fun text =>
      (Document.parse w.formats text.hint text.content).mapError Trouble.ofDocument) := by
  simp only [load, Logged.result_bind, Logged.result_record, Logged.result_ofExcept]
  rfl

theorem Run.result_prepare (w : World) (source : String) (config : Option String) :
    (prepare w source config).result = (do
      let config ← (Discovery.load w config).result
      let document ← (Source.load w source).result
      let version ← (DialectVersion.of document).mapError Trouble.ofDialect
      return ⟨config, document, version⟩) := by
  simp only [prepare, Logged.result_bind, Logged.result_ofExcept, Logged.result_pure]
  rfl

-- ---------------------------------------------------------------------------
-- What a failure is about
-- ---------------------------------------------------------------------------

/-- Whether a trouble, if it is reported at all, is reported as one of a kind. -/
def Trouble.About (kind : FailureKind) (t : Trouble) : Prop :=
  ∀ f, t.failure? = some f → f.kind = kind

namespace Trouble

theorem about_source (p : SourceProblem) : About .document (.source p) := by
  intro f h
  cases h
  rfl

theorem about_config (p : ConfigFileProblem) : About .configuration (.config p) := by
  intro f h
  cases h
  rfl

theorem about_of_unreported {t : Trouble} (h : t.failure? = none) (kind : FailureKind) :
    About kind t := by
  intro f hf
  rw [h] at hf
  cases hf

theorem about_ofDocument (e : DocumentError) : About .document (ofDocument e) := by
  cases e with
  | refused r => exact about_source _
  | fault f => exact about_of_unreported rfl _

theorem about_ofDialect (e : DialectError) : About .document (ofDialect e) := by
  cases e with
  | unsupported d version => exact about_source _
  | missing => exact about_source _
  | fault f => exact about_of_unreported rfl _

end Trouble

namespace ConfigFile

theorem about_of_parse {path : FilePath} {text : String} {t : Trouble}
    (h : parse path text = .error t) : t.About .configuration := by
  unfold parse at h
  split at h
  · cases h
    exact Trouble.about_config _
  · cases h
    exact Trouble.about_of_unreported rfl _
  · split at h
    · cases h
    · split at h
      · cases h
        exact Trouble.about_config _
      · cases h
        exact Trouble.about_of_unreported rfl _
  · cases h
    exact Trouble.about_config _

theorem about_of_load {w : World} {path : FilePath} {t : Trouble} (h : load w path = .error t) :
    t.About .configuration := by
  rw [load, bind_eq_error] at h
  rcases h with hFile | ⟨b, -, h⟩
  · obtain ⟨reason, -, rfl⟩ := World.isFile_eq_error.mp hFile
    exact Trouble.about_of_unreported rfl _
  · split at h
    · split at h
      · cases h
        exact Trouble.about_of_unreported rfl _
      · cases h
        exact Trouble.about_config _
      · exact about_of_parse h
    · cases h
      exact Trouble.about_config _

end ConfigFile

namespace Discovery

/-- A search that breaks off is about nothing that is reported. -/
theorem unreported_of_firstFile? {w : World} {ps : List FilePath} {t : Trouble}
    (h : firstFile? w ps = .error t) : t.failure? = none := by
  rcases firstFile?_cases w ps with ⟨hNone, -⟩ | ⟨_, p, _, -, -, ⟨hSome, -⟩ | ⟨t', hError, hFile⟩⟩
  · rw [h] at hNone
    cases hNone
  · rw [h] at hSome
    cases hSome
  · rw [h] at hError
    cases hError
    obtain ⟨reason, -, rfl⟩ := World.isFile_eq_error.mp hFile
    rfl

theorem home_eq_error {w : World} {t : Trouble} (h : home w = .error t) : t = .homeless := by
  unfold home at h
  dsimp only at h
  split at h
  · cases h
    rfl
  · split at h
    · cases h
      rfl
    · cases h

theorem userPath_eq_error {w : World} {t : Trouble} (h : userPath w = .error t) :
    t = .homeless := by
  unfold userPath configDirectory userDirectory at h
  simp only [bind_eq_error, pure_ne_error, and_false, exists_false, or_false] at h
  split at h
  · split at h
    · cases h
    · simp only [bind_eq_error, pure_ne_error, and_false, exists_false, or_false] at h
      exact home_eq_error h
  · simp only [bind_eq_error, pure_ne_error, and_false, exists_false, or_false] at h
    exact home_eq_error h

theorem unreported_of_path? {w : World} {given : Option String} {t : Trouble}
    (h : path? w given = .error t) : t.failure? = none := by
  unfold path? at h
  split at h
  · cases h
  · split at h
    · cases h
    · rcases bind_eq_error.mp h with hProject | ⟨found, -, h⟩
      · exact unreported_of_firstFile? hProject
      · split at h
        · cases h
        · rcases bind_eq_error.mp h with hUser | ⟨path, -, h⟩
          · rw [userPath_eq_error hUser]
            rfl
          · exact unreported_of_firstFile? h

theorem about_of_load {w : World} {given : Option String} {t : Trouble}
    (h : (load w given).result = .error t) : t.About .configuration := by
  rw [result_load] at h
  split at h
  · next hPath =>
    cases h
    exact Trouble.about_of_unreported (unreported_of_path? hPath) _
  · cases h
  · exact ConfigFile.about_of_load h

end Discovery

namespace Source

/-- A source without a text has a problem, or the reading of it breaks off. -/
theorem read_eq_error {w : World} {s : Source} {t : Trouble} (h : s.read w = .error t) :
    (∃ p, t = .source p) ∨ t.failure? = none := by
  cases s with
  | input =>
    rw [read, readInput] at h
    split at h
    · cases h
      exact .inr rfl
    · cases h
      exact .inl ⟨_, rfl⟩
    · split at h
      · cases h
        exact .inl ⟨_, rfl⟩
      · cases h
  | url text =>
    rw [read, fetch] at h
    split at h
    · cases h
      exact .inl ⟨_, rfl⟩
    · split at h
      · cases h
      · cases h
        exact .inl ⟨_, rfl⟩
  | file path =>
    rw [read, readFile, bind_eq_error] at h
    rcases h with hFile | ⟨b, -, h⟩
    · obtain ⟨reason, -, rfl⟩ := World.isFile_eq_error.mp hFile
      exact .inr rfl
    · split at h
      · split at h
        · cases h
          exact .inl ⟨_, rfl⟩
        · cases h
          exact .inl ⟨_, rfl⟩
        · split at h
          · cases h
            exact .inl ⟨_, rfl⟩
          · cases h
      · cases h
        exact .inl ⟨_, rfl⟩

theorem load_eq_error {w : World} {name : String} {t : Trouble}
    (h : (load w name).result = .error t) :
    ((ofText name).read w = .error t ∧ ((∃ p, t = .source p) ∨ t.failure? = none)) ∨
      ∃ text e, (ofText name).read w = .ok text ∧
        Document.parse w.formats text.hint text.content = .error e ∧ t = .ofDocument e := by
  rw [result_load, bind_eq_error] at h
  rcases h with hText | ⟨text, hText, h⟩
  · exact .inl ⟨hText, read_eq_error hText⟩
  · obtain ⟨e, hDocument, rfl⟩ := mapError_eq_error.mp h
    exact .inr ⟨text, e, hText, hDocument, rfl⟩

theorem about_of_load {w : World} {name : String} {t : Trouble}
    (h : (load w name).result = .error t) : t.About .document := by
  rcases load_eq_error h with ⟨-, ⟨p, rfl⟩ | hUnreported⟩ | ⟨text, e, -, -, rfl⟩
  · exact Trouble.about_source p
  · exact Trouble.about_of_unreported hUnreported _
  · exact Trouble.about_ofDocument e

end Source

-- ---------------------------------------------------------------------------
-- The end of a run
-- ---------------------------------------------------------------------------

namespace Run

/-- How a run ends that is broken off by a trouble. -/
def endingOf (t : Trouble) : Except Trouble ExitCode :=
  match t.failure? with
  | some f => .ok f.kind.exitCode
  | none => .error t

/-- How a run ends, by its stages. -/
def endingBy (w : World) (source : String) (config : Option String) : Except Trouble ExitCode :=
  match (prepare w source config).result with
  | .error t => endingOf t
  | .ok ready => match Lint.run ready.document ready.config.operations with
    | .error f => .error (.fault f)
    | .ok found => .ok (statusOf found)

theorem stop_parts (w : World) (p : Presentation) (err : String) (t : Trouble) :
    (stop w p err t).out = "" ∧ (stop w p err t).files = w.files ∧
      (stop w p err t).ending = endingOf t := by
  unfold stop endingOf
  cases t.failure? with
  | none => exact ⟨rfl, rfl, rfl⟩
  | some f => exact ⟨rfl, rfl, rfl⟩

/-- **The end of a run depends on its stages alone**, not on how the run presents itself, and the
run changes no files. -/
theorem lint_parts (w : World) (p : Presentation) (source : String) (config : Option String)
    (errorsOnly : Bool) :
    (lint w p source config errorsOnly).files = w.files ∧
      (lint w p source config errorsOnly).ending = endingBy w source config := by
  unfold lint endingBy
  dsimp only
  cases (prepare w source config).result with
  | error t => exact (stop_parts w p _ t).2
  | ok ready =>
    dsimp only
    cases Lint.run ready.document ready.config.operations with
    | error f => exact (stop_parts w p _ (.fault f)).2
    | ok found => exact ⟨rfl, rfl⟩

theorem endingOf_eq_ok {t : Trouble} {kind : FailureKind} {exit : ExitCode} (hAbout : t.About kind)
    (h : endingOf t = .ok exit) : exit = kind.exitCode := by
  unfold endingOf at h
  split at h
  · next f hFailure =>
    cases h
    rw [hAbout f hFailure]
  · cases h

theorem prepare_eq_ok {w : World} {source : String} {config : Option String}
    {ready : Preparation} :
    (prepare w source config).result = .ok ready ↔
      (Discovery.load w config).result = .ok ready.config ∧
        (Source.load w source).result = .ok ready.document ∧
        DialectVersion.of ready.document = .ok ready.version := by
  rw [result_prepare]
  simp only [bind_eq_ok, mapError_eq_ok, pure_eq_ok]
  constructor
  · rintro ⟨c, hConfig, document, hDocument, version, hVersion, rfl⟩
    exact ⟨hConfig, hDocument, hVersion⟩
  · rintro ⟨hConfig, hDocument, hVersion⟩
    exact ⟨_, hConfig, _, hDocument, _, hVersion, rfl⟩

/-- A run is broken off by the first stage that fails. -/
theorem prepare_eq_error {w : World} {source : String} {config : Option String} {t : Trouble} :
    (prepare w source config).result = .error t ↔
      (Discovery.load w config).result = .error t ∨
      ∃ c, (Discovery.load w config).result = .ok c ∧
        ((Source.load w source).result = .error t ∨
          ∃ document, (Source.load w source).result = .ok document ∧
            ∃ e, DialectVersion.of document = .error e ∧ Trouble.ofDialect e = t) := by
  rw [result_prepare]
  simp only [bind_eq_error, mapError_eq_error, pure_ne_error, and_false, exists_false, or_false]

theorem endingBy_of_error {w : World} {source : String} {config : Option String} {t : Trouble}
    (h : (prepare w source config).result = .error t) :
    endingBy w source config = endingOf t := by
  rw [endingBy, h]

end Run

-- ---------------------------------------------------------------------------
-- Whole runs
-- ---------------------------------------------------------------------------

theorem ExitCode.code_injective : Function.Injective code := by
  intro a b h
  cases a <;> cases b <;> first | rfl | cases h

/-- A run that is asked to check a document. -/
structure LintRun where
  world : World
  args : List String
  globals : List GlobalOption
  source : String
  config : Option String
  errorsOnly : Bool
  asked : CommandLine.parse args = some (.run globals (.lint source config errorsOnly))

namespace LintRun

variable (r : LintRun)

def outcome : RunOutcome := Run.start r.world r.args

def presentation : Presentation := Run.presentation r.world r.globals

def performance : Performance :=
  Run.lint r.world r.presentation r.source r.config r.errorsOnly

/-- The configuration that the run resolves. -/
def configuration : Except Trouble Config := (Discovery.load r.world r.config).result

/-- The document that the run loads. -/
def document : Except Trouble Entries := (Source.load r.world r.source).result

/-- Whether the run comes to an end with a status. -/
def EndsWith (code : Int) : Prop :=
  ∃ out err files exit, r.outcome = .finished out err files exit ∧ exit.code = code

variable {r}

theorem ending_eq : r.performance.ending = Run.endingBy r.world r.source r.config :=
  (Run.lint_parts _ _ _ _ _).2

theorem outcome_eq : r.outcome = Run.settle r.world r.presentation r.performance := by
  rw [outcome, Run.start, r.asked]
  rfl

theorem outcome_of_ending {exit : ExitCode} (h : r.performance.ending = .ok exit) :
    r.outcome = .finished r.performance.out r.performance.err r.world.files exit := by
  have hFiles : r.performance.files = r.world.files := (Run.lint_parts _ _ _ _ _).1
  rw [outcome_eq, Run.settle, h, hFiles]

theorem exit_of_outcome {out err : String} {files : FileTree} {exit exit' : ExitCode}
    (h : r.performance.ending = .ok exit) (hOutcome : r.outcome = .finished out err files exit') :
    exit' = exit := by
  rw [outcome_of_ending h] at hOutcome
  cases hOutcome
  rfl

/-- A trouble that escapes does not end a run as one about its document. -/
theorem endsWith_document : r.EndsWith 7 ↔ r.performance.ending = .ok .document := by
  constructor
  · rintro ⟨out, err, files, exit, hOutcome, hCode⟩
    have hExit : exit = .document := ExitCode.code_injective hCode
    subst hExit
    cases hEnding : r.performance.ending with
    | ok exit => rw [exit_of_outcome hEnding hOutcome]
    | error t =>
      rw [outcome_eq, Run.settle, hEnding] at hOutcome
      dsimp only at hOutcome
      split at hOutcome
      · cases hOutcome
      · cases hOutcome
  · intro h
    exact ⟨_, _, _, _, outcome_of_ending h, rfl⟩

end LintRun

end ApiLint
