import ApiLint.Proofs.Issues
import ApiLint.Proofs.Site

/-!
# A run without positions

An issue says where its operation stands among the entries of a document. A run does not need to
know: what it reports of an issue is its `Violation`, the rule and the place. Listed entry by entry,
without any counting, the violations of a document do not depend on what stands before or after an
entry, so two runs can be compared entry by entry.

* `violations_eq_map` — the violations of a document are those of its issues;
* `run_eq_route` — a run is the violations of the document, routed by severity.
-/

namespace ApiLint

open Outcome

/-- A violation of a rule: what an issue says, apart from where its operation stands. -/
structure Violation where
  rule : Rule
  place : String

/-- What is reported of a violation. -/
def Violation.finding (v : Violation) : Finding := ⟨v.place, v.rule.message⟩

/-- The violation that an issue is about. -/
def Issue.violation (i : Issue) : Violation := ⟨i.rule, i.path⟩

-- ---------------------------------------------------------------------------
-- Entries
-- ---------------------------------------------------------------------------

namespace Operation

/-- The path item at an entry of `paths`, as far as it is looked into. -/
def itemAt (path : String) (v : Value) : Entries :=
  if path.startsWith extensionMark then []
  else match v with
    | .map item => item
    | _ => []

/-- The fields of the operation at an entry of a path item, if there is one to check. -/
def fieldsAt? (method : String) (v : Value) : Option Entries :=
  match methods.contains method, v with
  | true, .map fields => if isExcluded fields then none else some fields
  | _, _ => none

theorem fieldsAt?_eq_some {method : String} {v : Value} {fields : Entries} :
    fieldsAt? method v = some fields ↔
      methods.contains method = true ∧ v = .map fields ∧ isExcluded fields = false := by
  unfold fieldsAt?
  split
  · next fields' hMethod =>
    cases hExcluded : isExcluded fields' with
    | true =>
      constructor
      · intro h
        cases h
      · rintro ⟨-, hMap, h⟩
        cases hMap
        rw [hExcluded] at h
        cases h
    | false =>
      constructor
      · intro h
        cases h
        exact ⟨hMethod, rfl, hExcluded⟩
      · rintro ⟨-, hMap, -⟩
        cases hMap
        rfl
  · next hNone =>
    constructor
    · intro h
      cases h
    · rintro ⟨hMethod, hMap, -⟩
      exact (hNone fields hMethod hMap).elim

/-- An operation to check is met at its entry. -/
theorem encounterAt_of_fieldsAt {path method : String} {entry : Key × Value} {fields : Entries}
    (hText : entry.1.text = .ok method) (h : fieldsAt? method entry.2 = some fields) (i j : Nat) :
    encounterAt path i j entry = some (.ok (.operation ⟨path, method, fields, i, j⟩)) := by
  obtain ⟨hMethod, hMap, hExcluded⟩ := fieldsAt?_eq_some.mp h
  exact encounterAt_eq_operation.mpr ⟨⟨hText, hMethod⟩, ⟨hMap, hExcluded⟩, rfl, rfl⟩

/-- An entry of `paths` is passed like the path item that is looked into there, except for what is
no operation. -/
theorem operation_mem_encountersAt_of_itemAt {path : String} {entry entry' : Key × Value}
    (hText : entry.1.text = .ok path) {i j : Nat}
    (hEntry' : (itemAt path entry.2)[j]? = some entry') {op : Operation}
    (h : encounterAt path i j entry' = some (.ok (.operation op))) :
    .ok (.operation op) ∈ encountersAt i entry := by
  obtain ⟨-, -, rfl, -⟩ := encounterAt_eq_operation.mp h
  unfold itemAt at hEntry'
  split at hEntry'
  · cases hEntry'
  · next hPath =>
    split at hEntry'
    · next item hItem =>
      exact operation_mem_encountersAt.mpr
        ⟨⟨hText, Bool.eq_false_iff.mpr hPath⟩, item, j, entry', hItem, hEntry', h⟩
    · cases hEntry'

end Operation

-- ---------------------------------------------------------------------------
-- Violations
-- ---------------------------------------------------------------------------

namespace Lint

/-- The violations of one rule in an operation. -/
def violationsOf (document : Entries) (op : Operation) (rule : Rule) :
    Except Fault (List Violation) :=
  List.map (Violation.mk rule) <$> rule.places document op

/-- The violations of some rules in an operation, rule by rule. -/
def violationsIn (document : Entries) (rules : List Rule) (op : Operation) :
    Except Fault (List Violation) :=
  gather (violationsOf document op) rules

/-- The violations at an entry of a path item. The operation is looked at as if it were the first
one of the document. -/
def violationsAt (document : Entries) (rules : List Rule) (path : String) (entry : Key × Value) :
    Except Fault (List Violation) := do
  let method ← entry.1.text
  (Operation.fieldsAt? method entry.2).elim (.ok []) fun fields =>
    violationsIn document rules ⟨path, method, fields, 0, 0⟩

/-- The violations under an entry of `paths`. -/
def violationsUnder (document : Entries) (rules : List Rule) (entry : Key × Value) :
    Except Fault (List Violation) := do
  let path ← entry.1.text
  gather (violationsAt document rules path) (Operation.itemAt path entry.2)

/-- The violations of some rules in a document, entry by entry. -/
def violations (document : Entries) (rules : List Rule) : Except Fault (List Violation) :=
  gather (violationsUnder document rules) (Operation.pathEntries document)

theorem violationsAt_of_text {entry : Key × Value} {method : String}
    (hText : entry.1.text = .ok method) (document : Entries) (rules : List Rule) (path : String) :
    violationsAt document rules path entry =
      (Operation.fieldsAt? method entry.2).elim (.ok []) fun fields =>
        violationsIn document rules ⟨path, method, fields, 0, 0⟩ := by
  rw [violationsAt, hText]
  rfl

theorem violationsAt_of_error {entry : Key × Value} {fault : Fault}
    (hText : entry.1.text = .error fault) (document : Entries) (rules : List Rule) (path : String) :
    violationsAt document rules path entry = .error fault := by
  rw [violationsAt, hText]
  rfl

theorem violationsUnder_of_text {entry : Key × Value} {path : String}
    (hText : entry.1.text = .ok path) (document : Entries) (rules : List Rule) :
    violationsUnder document rules entry =
      gather (violationsAt document rules path) (Operation.itemAt path entry.2) := by
  rw [violationsUnder, hText]
  rfl

theorem violationsUnder_of_error {entry : Key × Value} {fault : Fault}
    (hText : entry.1.text = .error fault) (document : Entries) (rules : List Rule) :
    violationsUnder document rules entry = .error fault := by
  rw [violationsUnder, hText]
  rfl

-- ---------------------------------------------------------------------------
-- Violations of issues
-- ---------------------------------------------------------------------------

/-- Rules do not look at the position of an operation. -/
theorem places_position (document : Entries) (op : Operation) (rule : Rule) (i j : Nat) :
    rule.places document { op with pathIndex := i, methodIndex := j } =
      rule.places document op := by
  cases rule <;> rfl

theorem violationsIn_position (document : Entries) (rules : List Rule) (op : Operation)
    (i j : Nat) :
    violationsIn document rules { op with pathIndex := i, methodIndex := j } =
      violationsIn document rules op := by
  apply gather_congr
  intro rule _
  rw [violationsOf, violationsOf, places_position]

theorem map_violation_issuesOf (document : Entries) (op : Operation) (rule : Rule) :
    List.map Issue.violation <$> issuesOf document op rule = violationsOf document op rule := by
  rw [issuesOf_eq_map, violationsOf]
  cases rule.places document op with
  | error fault => rfl
  | ok places =>
    have hFst : places.zipIdx.map Prod.fst = places := List.zipIdx_map_fst 0 places
    show Except.ok ((places.zipIdx.map _).map Issue.violation) = Except.ok (places.map _)
    conv =>
      rhs
      rw [← hFst]
    rw [List.map_map, List.map_map]
    rfl

theorem map_violation_issuesIn (document : Entries) (rules : List Rule) (op : Operation) :
    List.map Issue.violation <$> issuesIn document rules op = violationsIn document rules op := by
  rw [issuesIn_eq_gather, map_gather, violationsIn]
  exact gather_congr fun rule _ => map_violation_issuesOf document op rule

/-- What is met at an entry without an operation to check has no issues. -/
theorem issues_of_no_fields {document : Entries} {rules : List Rule} {path method : String}
    {entry : Key × Value} (hText : entry.1.text = .ok method)
    (hFields : Operation.fieldsAt? method entry.2 = none) (i j : Nat) :
    (Operation.encounterAt path i j entry).elim (.ok []) (issuesAt document rules) = .ok [] := by
  unfold Operation.encounterAt
  simp only [hText]
  split
  · next fields hMethod hMap =>
    cases hExcluded : Operation.isExcluded fields with
    | true => rfl
    | false =>
      rw [Operation.fieldsAt?_eq_some.mpr ⟨hMethod, hMap, hExcluded⟩] at hFields
      cases hFields
  · rfl

theorem map_violation_encounterAt (document : Entries) (rules : List Rule) (path : String)
    (i j : Nat) (entry : Key × Value) :
    List.map Issue.violation <$>
        (Operation.encounterAt path i j entry).elim (.ok []) (issuesAt document rules) =
      violationsAt document rules path entry := by
  cases hText : entry.1.text with
  | error fault =>
    rw [violationsAt_of_error hText]
    unfold Operation.encounterAt
    simp only [hText]
    rfl
  | ok method =>
    rw [violationsAt_of_text hText]
    cases hFields : Operation.fieldsAt? method entry.2 with
    | none =>
      rw [issues_of_no_fields hText hFields]
      rfl
    | some fields =>
      rw [Operation.encounterAt_of_fieldsAt hText hFields]
      exact (map_violation_issuesIn document rules ⟨path, method, fields, i, j⟩).trans
        (violationsIn_position document rules ⟨path, method, fields, 0, 0⟩ i j)

theorem map_violation_encountersAt (document : Entries) (rules : List Rule) (i : Nat)
    (entry : Key × Value) :
    List.map Issue.violation <$> gather (issuesAt document rules) (Operation.encountersAt i entry) =
      violationsUnder document rules entry := by
  cases hText : entry.1.text with
  | error fault =>
    rw [violationsUnder_of_error hText, Operation.encountersAt_of_error hText]
    rfl
  | ok path =>
    rw [violationsUnder_of_text hText]
    unfold Operation.encountersAt Operation.itemAt
    simp only [hText]
    split
    · rfl
    · cases entry.2 with
      | map item =>
        dsimp only
        rw [Operation.encountersIn, gather_filterMap, map_gather, ← gather_zipIdx _ item 0]
        exact gather_congr fun p _ => map_violation_encounterAt document rules path i p.2 p.1
      | _ => rfl

/-- The violations of a document are those of its issues, in the same order. -/
theorem violations_eq_map (document : Entries) (rules : List Rule) :
    violations document rules = List.map Issue.violation <$> issues document rules := by
  rw [issues_eq_gather, Operation.encounters, gather_flatMap, map_gather, violations,
    ← gather_zipIdx _ (Operation.pathEntries document) 0]
  exact gather_congr fun p _ => (map_violation_encountersAt document rules p.2 p.1).symm

-- ---------------------------------------------------------------------------
-- Routing
-- ---------------------------------------------------------------------------

/-- The findings of violations, each in the list of its rule's severity. -/
def route (severities : Severities) (vs : List Violation) : Findings where
  errors := (vs.filter fun v => severities.of v.rule == .error).map Violation.finding
  warnings := (vs.filter fun v => severities.of v.rule == .warning).map Violation.finding

theorem route_append (severities : Severities) (vs ws : List Violation) :
    route severities (vs ++ ws) = route severities vs ++ route severities ws := by
  simp [route, Findings.append_def]

theorem sort_eq_route (severities : Severities) (is : List Issue) :
    sort severities is = route severities (is.map Issue.violation) := by
  rw [sort, route, List.filter_map, List.filter_map, List.map_map, List.map_map]
  rfl

/-- **A run is its violations, routed.** -/
theorem run_eq_route (document : Entries) (severities : Severities) :
    run document severities = route severities <$> violations document severities.active := by
  rw [run_eq_sort, violations_eq_map]
  cases issues document severities.active with
  | error fault => rfl
  | ok is => exact congrArg Except.ok (sort_eq_route severities is)

end Lint

end ApiLint
