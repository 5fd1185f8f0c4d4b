import ApiLint.Proofs.Outcome

/-!
# A run and its issues

A run keeps two lists and adds to them while it passes over a document. This module shows that the
passage amounts to listing the issues of the document first and sorting them afterwards, so that
properties of a run can be proved about the one list of issues.

* `run_eq_sort` — a run is the list of issues, sorted by severity;
* `issues_filter` — with fewer rules there are the same issues less those of the rules left out.
-/

namespace ApiLint

open Outcome

namespace Findings

theorem append_def (a b : Findings) :
    a ++ b = ⟨a.errors ++ b.errors, a.warnings ++ b.warnings⟩ := rfl

theorem append_empty (a : Findings) : a ++ empty = a := by
  simp [append_def, empty]

theorem empty_append (a : Findings) : empty ++ a = a := by
  simp [append_def, empty]

theorem append_assoc (a b c : Findings) : a ++ b ++ c = a ++ (b ++ c) := by
  simp [append_def]

end Findings

namespace Lint

-- ---------------------------------------------------------------------------
-- Sorting
-- ---------------------------------------------------------------------------

theorem sort_append (severities : Severities) (is js : List Issue) :
    sort severities (is ++ js) = sort severities is ++ sort severities js := by
  simp [sort, Findings.append_def]

/-- Adding issues one list after the other is adding all of them. -/
theorem append_sort_append (severities : Severities) (collected : Findings) (is js : List Issue) :
    collected ++ sort severities (is ++ js) =
      collected ++ sort severities is ++ sort severities js := by
  rw [sort_append, Findings.append_assoc]

/-- Issues of one rule all go into the list of its severity. -/
theorem collect_findings {severities : Severities} {rule : Rule} {is : List Issue}
    (hRule : ∀ i ∈ is, i.rule = rule) (collected : Findings) :
    collect collected (severities.of rule) (is.map Issue.finding) =
      collected ++ sort severities is := by
  have hFilter : ∀ severity, (is.filter fun i => severities.of i.rule == severity) =
      if severities.of rule = severity then is else [] := by
    intro severity
    split
    · next h =>
      rw [List.filter_eq_self]
      intro i hi
      rw [hRule i hi, beq_iff_eq]
      exact h
    · next h =>
      rw [List.filter_eq_nil_iff]
      intro i hi
      rw [hRule i hi, beq_iff_eq]
      exact h
  rw [sort, hFilter, hFilter]
  cases severities.of rule <;> simp [collect, Findings.append_def]

-- ---------------------------------------------------------------------------
-- Issues of a rule
-- ---------------------------------------------------------------------------

theorem issuesOf_eq_map (document : Entries) (op : Operation) (rule : Rule) :
    issuesOf document op rule =
      (fun places => places.zipIdx.map fun (path, index) => (⟨op, rule, index, path⟩ : Issue)) <$>
        rule.places document op :=
  bind_pure_comp _ _

theorem check_eq_map (document : Entries) (op : Operation) (rule : Rule) :
    rule.check document op =
      (fun places => places.map fun path => (⟨path, rule.message⟩ : Finding)) <$>
        rule.places document op :=
  bind_pure_comp _ _

/-- The issues of a rule come from this operation and this rule. -/
theorem origin_of_mem_issuesOf {document : Entries} {op : Operation} {rule : Rule}
    {is : List Issue} (h : issuesOf document op rule = .ok is) :
    ∀ i ∈ is, i.operation = op ∧ i.rule = rule := by
  rw [issuesOf_eq_map] at h
  obtain ⟨places, -, rfl⟩ := map_eq_ok.mp h
  intro i hi
  obtain ⟨p, -, rfl⟩ := List.mem_map.mp hi
  exact ⟨rfl, rfl⟩

/-- The findings of a rule are what its issues report. -/
theorem check_eq_findings (document : Entries) (op : Operation) (rule : Rule) :
    rule.check document op = List.map Issue.finding <$> issuesOf document op rule := by
  rw [check_eq_map, issuesOf_eq_map]
  cases rule.places document op with
  | error fault => rfl
  | ok places =>
    have hFst : places.zipIdx.map Prod.fst = places := List.zipIdx_map_fst 0 places
    show Except.ok (places.map _) = Except.ok (List.map _ (places.zipIdx.map _))
    conv =>
      lhs
      rw [← hFst]
    rw [List.map_map, List.map_map]
    rfl

-- ---------------------------------------------------------------------------
-- Issues of an operation and of a document
-- ---------------------------------------------------------------------------

theorem issuesIn_eq_gather (document : Entries) (rules : List Rule) (op : Operation) :
    issuesIn document rules op = gather (issuesOf document op) rules :=
  bind_pure_comp _ _

theorem issues_eq_gather (document : Entries) (rules : List Rule) :
    issues document rules =
      gather (issuesAt document rules) (Operation.encounters document) :=
  bind_pure_comp _ _

/-- The issues in an operation come from this operation and the rules that are applied. -/
theorem origin_of_mem_issuesIn {document : Entries} {rules : List Rule} {op : Operation}
    {is : List Issue} (h : issuesIn document rules op = .ok is) :
    ∀ i ∈ is, i.operation = op ∧ i.rule ∈ rules := by
  intro i hi
  rw [issuesIn_eq_gather] at h
  obtain ⟨rule, hRule, js, hjs, hi⟩ := mem_of_gather h i hi
  obtain ⟨hOp, rfl⟩ := origin_of_mem_issuesOf hjs i hi
  exact ⟨hOp, hRule⟩

/-- Documents in which the rules find the same places in the operation at an encounter have the same
issues there. -/
theorem issuesAt_congr {document document' : Entries} {rules : List Rule}
    {encounter : Except Fault Encounter}
    (h : ∀ op, encounter = .ok (.operation op) →
      ∀ rule : Rule, rule.places document op = rule.places document' op) :
    issuesAt document rules encounter = issuesAt document' rules encounter := by
  cases encounter with
  | error fault => rfl
  | ok met =>
    cases met with
    | extension path => rfl
    | excluded method path => rfl
    | operation op =>
      show issuesIn document rules op = issuesIn document' rules op
      rw [issuesIn_eq_gather, issuesIn_eq_gather]
      apply gather_congr
      intro rule _
      rw [issuesOf_eq_map, issuesOf_eq_map, h op rfl]

-- ---------------------------------------------------------------------------
-- A run
-- ---------------------------------------------------------------------------

/-- One rule applied in a run adds its issues, sorted. -/
theorem collect_check (document : Entries) (severities : Severities) (op : Operation)
    (collected : Findings) (rule : Rule) :
    (do return collect collected (severities.of rule) (← rule.check document op)) =
      (fun is => collected ++ sort severities is) <$> issuesOf document op rule := by
  rw [check_eq_findings]
  cases h : issuesOf document op rule with
  | error fault => rfl
  | ok is =>
    show Except.ok _ = Except.ok _
    rw [collect_findings fun i hi => (origin_of_mem_issuesOf h i hi).2]

/-- Visiting an operation adds its issues, sorted. -/
theorem visit_eq_sort (document : Entries) (severities : Severities) (op : Operation)
    (collected : Findings) :
    visit document severities collected op =
      (fun is => collected ++ sort severities is) <$>
        issuesIn document severities.active op := by
  rw [visit, issuesIn_eq_gather]
  simp only [collect_check]
  exact foldlM_eq_gather Findings.append_empty (append_sort_append severities) _ collected

theorem visitAt_eq_sort (document : Entries) (severities : Severities) (collected : Findings)
    (encounter : Except Fault Encounter) :
    visitAt document severities collected encounter =
      (fun is => collected ++ sort severities is) <$>
        issuesAt document severities.active encounter := by
  have hNone : (pure collected : Except Fault Findings) =
      (fun is => collected ++ sort severities is) <$> pure [] :=
    congrArg Except.ok (Findings.append_empty collected).symm
  cases encounter with
  | error fault => rfl
  | ok met =>
    cases met with
    | extension path => exact hNone
    | excluded method path => exact hNone
    | operation op => exact visit_eq_sort document severities op collected

/-- **A run is its issues, sorted.** The two lists that a run fills in passing are the issues of the
document, each in the list of its rule's severity and in the order of the passage. -/
theorem run_eq_sort (document : Entries) (severities : Severities) :
    run document severities = sort severities <$> issues document severities.active := by
  have hStep : visitAt document severities = fun collected encounter =>
      (fun is => collected ++ sort severities is) <$>
        issuesAt document severities.active encounter := by
    funext collected encounter
    exact visitAt_eq_sort document severities collected encounter
  rw [run, hStep, foldlM_eq_gather Findings.append_empty (append_sort_append severities),
    ← issues_eq_gather]
  cases issues document severities.active with
  | error fault => rfl
  | ok is => exact congrArg Except.ok (Findings.empty_append _)

theorem run_eq_ok {document : Entries} {severities : Severities} {found : Findings} :
    run document severities = .ok found ↔
      ∃ is, issues document severities.active = .ok is ∧ sort severities is = found := by
  rw [run_eq_sort, map_eq_ok]

-- ---------------------------------------------------------------------------
-- Fewer rules
-- ---------------------------------------------------------------------------

theorem issuesIn_filter {document : Entries} {rules : List Rule} {op : Operation}
    {is : List Issue} (keep : Rule → Bool) (h : issuesIn document rules op = .ok is) :
    issuesIn document (rules.filter keep) op = .ok (is.filter fun i => keep i.rule) := by
  rw [issuesIn_eq_gather] at h ⊢
  induction rules generalizing is with
  | nil =>
    cases h
    rfl
  | cons rule rules ih =>
    obtain ⟨is₁, is₂, h₁, h₂, rfl⟩ := gather_cons_eq_ok.mp h
    have hRule : ∀ i ∈ is₁, i.rule = rule := fun i hi => (origin_of_mem_issuesOf h₁ i hi).2
    rw [List.filter_append]
    by_cases hKeep : keep rule = true
    · have hAll : (is₁.filter fun i => keep i.rule) = is₁ := by
        rw [List.filter_eq_self]
        intro i hi
        rw [hRule i hi]
        exact hKeep
      rw [List.filter_cons_of_pos hKeep, hAll]
      exact gather_cons_eq_ok.mpr ⟨is₁, _, h₁, ih h₂, rfl⟩
    · have hNone : (is₁.filter fun i => keep i.rule) = [] := by
        rw [List.filter_eq_nil_iff]
        intro i hi
        rw [hRule i hi]
        exact hKeep
      rw [List.filter_cons_of_neg hKeep, hNone, List.nil_append]
      exact ih h₂

theorem issuesAt_filter {document : Entries} {rules : List Rule}
    {encounter : Except Fault Encounter} {is : List Issue} (keep : Rule → Bool)
    (h : issuesAt document rules encounter = .ok is) :
    issuesAt document (rules.filter keep) encounter = .ok (is.filter fun i => keep i.rule) := by
  rw [issuesAt] at h ⊢
  obtain ⟨met, hMet, h⟩ := bind_eq_ok.mp h
  refine bind_eq_ok.mpr ⟨met, hMet, ?_⟩
  cases hOp : met.operation? with
  | none =>
    rw [hOp] at h
    cases h
    rfl
  | some op =>
    rw [hOp] at h
    exact issuesIn_filter keep h

/-- Leaving out rules takes away their issues and nothing else. -/
theorem issues_filter {document : Entries} {rules : List Rule} {is : List Issue}
    (keep : Rule → Bool) (h : issues document rules = .ok is) :
    issues document (rules.filter keep) = .ok (is.filter fun i => keep i.rule) := by
  rw [issues_eq_gather] at h ⊢
  exact gather_filter h fun _ _ _ hx => issuesAt_filter keep hx

end Lint

end ApiLint
