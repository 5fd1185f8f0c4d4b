import ApiLint.Config.Validation
import ApiLint.Proofs.Routing

/-!
# Bare mappings as settings

A run takes its severities from a complete assignment or from a bare mapping. The second way is the
first one after a reading of the mapping: what a rule's key holds counts if it is the name of a
severity, and everything else counts as off. The run is the same from there on, and so is its log,
apart from the complaints that the reading begins with.

* `Lint.severityIn_eq_iff` — the severity that a mapping gives a rule;
* `Lint.complaints_eq_map` — the complaints about a mapping;
* `Lint.events_of_run` — the log of a run that completes;
* `Lint.runWith_mapping` — a run with a bare mapping is one with the assignment that it gives.
-/

namespace ApiLint

open Outcome

namespace Severity

theorem name_injective : Function.Injective name := by
  have hAll : ∀ s ∈ all, ∀ s' ∈ all, s.name = s'.name → s = s' := by decide
  have hMem : ∀ s : Severity, s ∈ all := by
    intro s
    cases s <;> decide
  intro s s' h
  exact hAll s (hMem s) s' (hMem s') h

theorem ofName?_eq_some {text : String} {s : Severity} : ofName? text = some s ↔ text = s.name := by
  constructor
  · intro h
    have hName := List.find?_some h
    exact (beq_iff_eq.mp hName).symm
  · rintro rfl
    cases s <;> rfl

end Severity

namespace Lint

-- ---------------------------------------------------------------------------
-- Severities
-- ---------------------------------------------------------------------------

/-- Whether a mapping gives a rule a severity: it holds its name at the key of the rule. -/
def Gives (mapping : Entries) (rule : Rule) (severity : Severity) : Prop :=
  mapping.field? rule.key = some (.str severity.name)

variable {mapping : Entries} {rule : Rule} {severity : Severity}

theorem Gives.unique {severity' : Severity} (h : Gives mapping rule severity)
    (h' : Gives mapping rule severity') : severity = severity' := by
  have hSame := h.symm.trans h'
  simp only [Option.some.injEq, Value.scalar.injEq, Scalar.str.injEq] at hSame
  exact Severity.name_injective hSame

theorem severityIn_of_gives (h : Gives mapping rule severity) :
    severityIn mapping rule = severity := by
  have hField : mapping.field? rule.key = some (.str severity.name) := h
  have hName : Severity.ofName? severity.name = some severity := Severity.ofName?_eq_some.mpr rfl
  simp only [severityIn, hField, hName, Option.getD_some]

theorem severityIn_of_not_gives (h : ∀ severity, ¬ Gives mapping rule severity) :
    severityIn mapping rule = .off := by
  unfold severityIn
  split
  · next text hText =>
    cases hName : Severity.ofName? text with
    | none => rfl
    | some severity =>
      rw [Severity.ofName?_eq_some.mp hName] at hText
      exact absurd hText (h severity)
  · rfl

/-- A mapping gives a rule the severity that it names, and off if it names none. -/
theorem severityIn_eq_iff :
    severityIn mapping rule = severity ↔
      Gives mapping rule severity ∨ (severity = .off ∧ ∀ s, ¬ Gives mapping rule s) := by
  by_cases hGives : ∃ s, Gives mapping rule s
  · obtain ⟨s, hs⟩ := hGives
    rw [severityIn_of_gives hs]
    constructor
    · rintro rfl
      exact .inl hs
    · rintro (h | ⟨-, hNone⟩)
      · exact hs.unique h
      · exact absurd hs (hNone s)
  · have hNone : ∀ s, ¬ Gives mapping rule s := not_exists.mp hGives
    rw [severityIn_of_not_gives hNone]
    constructor
    · rintro rfl
      exact .inr ⟨rfl, hNone⟩
    · rintro (h | ⟨hOff, -⟩)
      · exact absurd h (hNone severity)
      · exact hOff.symm

/-- A mapping that names a severity for every rule is a valid section of a configuration. -/
theorem ofValue_of_gives (h : ∀ rule, ∃ severity, Gives mapping rule severity) :
    Severities.ofValue (.map mapping) = .ok (severitiesIn mapping) := by
  have hGiven : ∀ rule, Severities.given? mapping rule = some (severityIn mapping rule) := by
    intro rule
    obtain ⟨severity, hs⟩ := h rule
    have hField : mapping.field? rule.key = some (.str severity.name) := hs
    rw [severityIn_of_gives hs]
    simp only [Severities.given?, hField, Severity.ofName?_eq_some]
  have hProblems : Severities.problems "" mapping = [] := by
    simp only [Severities.problems, hGiven, List.filterMap_eq_nil_iff, implies_true]
  simp only [Severities.ofValue, hProblems, Severities.ofEntries, hGiven, Option.getD_some]
  rfl

-- ---------------------------------------------------------------------------
-- Complaints
-- ---------------------------------------------------------------------------

theorem isSeverity_iff {v : Value} : isSeverity v = true ↔ ∃ s : Severity, v = .str s.name := by
  unfold isSeverity
  split
  · next text =>
    rw [Option.isSome_iff_exists]
    simp only [Severity.ofName?_eq_some, Value.scalar.injEq, Scalar.str.injEq]
  · next hOther =>
    refine iff_of_false Bool.false_ne_true ?_
    rintro ⟨s, rfl⟩
    exact hOther s.name rfl

/-- The rules whose keys hold something else than a severity, with what they hold. -/
def invalid (mapping : Entries) : List (Rule × Value) :=
  Rule.all.filterMap fun rule =>
    ((mapping.field? rule.key).filter fun v => !isSeverity v).map fun v => (rule, v)

theorem mem_invalid {v : Value} :
    (rule, v) ∈ invalid mapping ↔
      mapping.field? rule.key = some v ∧ ∀ s : Severity, v ≠ .str s.name := by
  have hInvalid : (!isSeverity v) = true ↔ ∀ s : Severity, v ≠ .str s.name := by
    rw [Bool.not_eq_true', Bool.eq_false_iff, ne_eq, isSeverity_iff, not_exists]
  rw [invalid, List.mem_filterMap, ← hInvalid]
  constructor
  · rintro ⟨rule', -, h⟩
    obtain ⟨v', hv', h⟩ := Option.map_eq_some_iff.mp h
    cases h
    exact Option.filter_eq_some_iff.mp hv'
  · intro h
    refine ⟨rule, Rule.mem_all rule, ?_⟩
    rw [Option.filter_eq_some_iff.mpr h]
    rfl

theorem map_fst_filterMap_sublist (f : Rule → Option Value) (rules : List Rule) :
    ((rules.filterMap fun rule => (f rule).map fun v => (rule, v)).map Prod.fst).Sublist rules := by
  induction rules with
  | nil => exact .slnil
  | cons rule rules ih =>
    cases hf : f rule with
    | none =>
      rw [List.filterMap_cons_none (by rw [hf]; rfl)]
      exact ih.cons rule
    | some v =>
      rw [List.filterMap_cons_some (by rw [hf]; rfl)]
      exact ih.cons_cons rule

theorem complaints_eq_map (mapping : Entries) :
    complaints mapping = (invalid mapping).map fun (rule, v) => .severityInvalid v rule.key := by
  rw [complaints, invalid, List.map_filterMap]
  apply List.filterMap_congr
  intro rule _
  cases mapping.field? rule.key with
  | none => rfl
  | some v => cases h : isSeverity v <;> simp [h, Option.filter]

-- in the order of the rules, not of the mapping
example :
    complaints [(.str "no_summary", .null), (.int 1, .str "fatal"),
      (.str "parameter_order", .str "off"), (.str "no_produces", .str "Error")] =
      [.severityInvalid (.str "Error") "no_produces", .severityInvalid .null "no_summary"] := rfl

-- ---------------------------------------------------------------------------
-- Logs
-- ---------------------------------------------------------------------------

/-- What a run records before it begins. -/
def opening : Settings → List LogEvent
  | .model _ => []
  | .mapping entries => complaints entries

/-- What a run records at its end, unless it broke off. -/
def closing : Except Fault Findings → List LogEvent
  | .ok found => [.totals found.errors.length found.warnings.length]
  | .error _ => []

/-- The log of a run, to its end or until it breaks off. -/
def log (document : Entries) (settings : Settings) : List LogEvent :=
  opening settings ++
    trail document (severitiesOf settings).active (Operation.encounters document) ++
      closing (runWith document settings)

/-- If the rules can be applied to all that is met, the trail goes through to the end. -/
theorem trail_of_gather {document : Entries} {rules : List Rule}
    {encounters : List (Except Fault Encounter)} {is : List Issue}
    (h : gather (issuesAt document rules) encounters = .ok is) :
    ∃ met, encounters.mapM id = .ok met ∧
      trail document rules encounters = met.filterMap Encounter.event? := by
  induction encounters generalizing is with
  | nil => exact ⟨[], rfl, rfl⟩
  | cons encounter rest ih =>
    obtain ⟨here, there, hHere, hThere, -⟩ := gather_cons_eq_ok.mp h
    obtain ⟨first, rfl, -⟩ := bind_eq_ok.mp hHere
    obtain ⟨met, hMet, hTrail⟩ := ih hThere
    refine ⟨first :: met, ?_, ?_⟩
    · rw [List.mapM_cons, hMet]
      rfl
    · simp only [trail, hHere, hTrail]
      cases hEvent : first.event? with
      | none => rw [List.filterMap_cons_none hEvent, Option.toList_none, List.nil_append]
      | some event => rw [List.filterMap_cons_some hEvent]; rfl

/-- After what a run records before it begins, its log is that of a run with the severities that the
settings amount to. -/
theorem log_eq_opening (document : Entries) (settings : Settings) :
    log document settings =
      opening settings ++ log document (.model (severitiesOf settings)) := by
  simp only [log, opening, List.nil_append, List.append_assoc, runWith_eq_run, severitiesOf]

/-- **The log of a run that completes** is what the passage over the document records, and the
totals. -/
theorem events_of_run {document : Entries} {severities : Severities} {found : Findings}
    (h : runWith document (.model severities) = .ok found) :
    Lint.events document found = .ok (log document (.model severities)) := by
  obtain ⟨is, hIssues, -⟩ := run_eq_ok.mp h
  rw [issues_eq_gather] at hIssues
  obtain ⟨met, hMet, hTrail⟩ := trail_of_gather hIssues
  rw [log, severitiesOf, hTrail, h]
  simp only [Lint.events, passageEvents, hMet]
  rfl

-- ---------------------------------------------------------------------------
-- Runs
-- ---------------------------------------------------------------------------

/-- Of a mapping, only what it holds at the keys of the rules counts. -/
theorem severitiesIn_congr {mapping mapping' : Entries}
    (h : ∀ rule : Rule, mapping'.field? rule.key = mapping.field? rule.key) :
    severitiesIn mapping' = severitiesIn mapping ∧ complaints mapping' = complaints mapping := by
  constructor
  · have hSame : severityIn mapping' = severityIn mapping := by
      funext rule
      rw [severityIn, severityIn, h]
    rw [severitiesIn, severitiesIn, hSame]
  · simp only [complaints, h]

theorem complaints_of_gives (h : ∀ rule, ∃ severity, Gives mapping rule severity) :
    complaints mapping = [] := by
  rw [complaints_eq_map, List.map_eq_nil_iff, List.eq_nil_iff_forall_not_mem]
  rintro ⟨rule, v⟩ hMem
  obtain ⟨hField, hInvalid⟩ := mem_invalid.mp hMem
  obtain ⟨severity, hs⟩ := h rule
  exact hInvalid severity (Option.some.inj (hField.symm.trans hs))

/-- **A bare mapping counts for the assignment that it gives.** This is the severity that the
mapping names at the key of the rule, or off. The runs with either have the same result. The log of
the run with the mapping has complaints before the log of the other, which is that of any run: one
about each rule whose key holds something else than a severity, in the order of the rules. Other
keys do not count, and a mapping that names a severity for every rule is valid data of this
assignment and has no complaints. -/
theorem runWith_mapping (document mapping : Entries) :
    ∃ c : Severities,
      (∀ rule severity, c.of rule = severity ↔
        Gives mapping rule severity ∨ (severity = .off ∧ ∀ s, ¬ Gives mapping rule s)) ∧
      runWith document (.mapping mapping) = runWith document (.model c) ∧
      log document (.mapping mapping) = complaints mapping ++ log document (.model c) ∧
      (∀ found, runWith document (.model c) = .ok found →
        Lint.events document found = .ok (log document (.model c))) ∧
      (∃ rejected : List (Rule × Value),
        complaints mapping = rejected.map (fun (rule, v) => .severityInvalid v rule.key) ∧
        (rejected.map Prod.fst).Sublist Rule.all ∧
        ∀ rule v, (rule, v) ∈ rejected ↔
          mapping.field? rule.key = some v ∧ ∀ s : Severity, v ≠ .str s.name) ∧
      (∀ mapping' : Entries, (∀ rule : Rule, mapping'.field? rule.key = mapping.field? rule.key) →
        runWith document (.mapping mapping') = runWith document (.mapping mapping) ∧
          log document (.mapping mapping') = log document (.mapping mapping)) ∧
      ((∀ rule, ∃ s, Gives mapping rule s) →
        Severities.ofValue (.map mapping) = .ok c ∧
          log document (.mapping mapping) = log document (.model c)) := by
  have hLog := log_eq_opening document (.mapping mapping)
  refine ⟨severitiesIn mapping, ?_, rfl, hLog, fun _ => events_of_run, ?_, ?_, ?_⟩
  · intro rule severity
    rw [severitiesIn, Severities.of_ofFun]
    exact severityIn_eq_iff
  · exact ⟨invalid mapping, complaints_eq_map mapping, map_fst_filterMap_sublist _ Rule.all,
      fun _ _ => mem_invalid⟩
  · intro mapping' hSame
    obtain ⟨hSeverities, hComplaints⟩ := severitiesIn_congr hSame
    have hLog' := log_eq_opening document (.mapping mapping')
    refine ⟨?_, ?_⟩
    · rw [runWith_eq_run, runWith_eq_run, severitiesOf, severitiesOf, hSeverities]
    · rw [hLog, hLog', opening, opening, severitiesOf, severitiesOf, hSeverities, hComplaints]
  · intro hGives
    refine ⟨ofValue_of_gives hGives, ?_⟩
    rw [hLog, opening, complaints_of_gives hGives]
    rfl

end Lint

end ApiLint
