import ApiLint.Proofs.Identity
import ApiLint.Proofs.Routing
import Mathlib.Data.Prod.Lex

/-!
# What a run visits, and in which order

A run visits the operations that stand in the document under a path that is no extension and have
not opted out, in the order in which they stand there, and applies every rule that is not off to
each of them. So the origin of an issue — the positions of its path and method, of its rule, and of
its place in what the rule lists — says where among the findings it comes.

* `Operation.mem_visited` — which operations are visited;
* `Lint.run_eq_visits` — a run is the visits to these operations, one after the other;
* `Lint.pairwise_origin_issues` — issues come in the strict order of their origins;
* `Lint.runWith_covers` — each list of a run accounts for all that the rules of its severity find in
  the visited operations, in that order, and for nothing else.
-/

namespace ApiLint

open Outcome

-- ---------------------------------------------------------------------------
-- Visited operations
-- ---------------------------------------------------------------------------

namespace Encounter

/-- The operation to visit at an encounter, if there is one. -/
def visited? (encounter : Except Fault Encounter) : Option Operation :=
  encounter.toOption.bind operation?

theorem visited?_eq_some {encounter : Except Fault Encounter} {op : Operation} :
    visited? encounter = some op ↔ encounter = .ok (.operation op) := by
  cases encounter with
  | error fault => simp [visited?, Except.toOption]
  | ok met => cases met <;> simp [visited?, Except.toOption, operation?]

end Encounter

namespace Operation

/-- The operations that are visited in a document, in the order of the passage. -/
def visited (document : Entries) : List Operation :=
  (encounters document).filterMap Encounter.visited?

/-- Whether an operation stands in a document at the positions that it names and is to be checked:
its path is no extension and leads to a mapping, in which the name of a method leads to the fields
of the operation, and these do not opt out. -/
def StandsIn (document : Entries) (op : Operation) : Prop :=
  ∃ paths key item, document.field? "paths" = some (.map paths) ∧
    paths[op.pathIndex]? = some (key, .map item) ∧
    key.text = .ok op.path ∧ ¬ "x-".toList <+: op.path.toList ∧
    item[op.methodIndex]? = some (.str op.method, .map op.fields) ∧
    op.method ∈ ["get", "head", "post", "put", "patch", "delete", "options"] ∧
    op.fields.field? "x-sdk-exclude" ≠ some (.bool true)

theorem isEntered_iff {path : String} : IsEntered path ↔ ¬ "x-".toList <+: path.toList :=
  String.startsWith_string_eq_false_iff

theorem isExcluded_eq_false_iff {fields : Entries} :
    isExcluded fields = false ↔ fields.field? "x-sdk-exclude" ≠ some (.bool true) := by
  show isExcluded fields = false ↔ fields.field? excludeKey ≠ some (.bool true)
  unfold isExcluded
  split
  · next h => simp [h]
  · next h => simpa using h

/-- There is something at a position of `paths` exactly if `paths` is a mapping with that many
entries. -/
theorem getElem?_pathEntries {document : Entries} {i : Nat} {entry : Key × Value} :
    (pathEntries document)[i]? = some entry ↔
      ∃ paths, document.field? "paths" = some (.map paths) ∧ paths[i]? = some entry := by
  unfold pathEntries
  split
  · next paths hPaths => simp [hPaths]
  · next hPaths =>
    constructor
    · intro h
      cases h
    · rintro ⟨paths, h, -⟩
      exact absurd h (hPaths paths)

theorem operation_mem_encounters {document : Entries} {op : Operation} :
    .ok (.operation op) ∈ encounters document ↔ op.StandsIn document := by
  rw [mem_encounters]
  constructor
  · rintro ⟨i, ⟨key, v⟩, hEntry, h⟩
    obtain ⟨paths, hPaths, hEntry⟩ := getElem?_pathEntries.mp hEntry
    obtain ⟨⟨hPath, hEntered⟩, item, j, ⟨key', v'⟩, hItem, hEntry', h⟩ :=
      operation_mem_encountersAt.mp h
    obtain ⟨⟨hMethod, hMethods⟩, ⟨hFields, hExcluded⟩, -, hOrigin⟩ := encounterAt_eq_operation.mp h
    obtain ⟨rfl, rfl⟩ := Prod.mk.inj hOrigin
    dsimp only at hMethod hItem hFields
    subst hItem hFields
    refine ⟨paths, key, item, hPaths, hEntry, hPath, isEntered_iff.mp hEntered, ?_,
      List.contains_iff_mem.mp hMethods, isExcluded_eq_false_iff.mp hExcluded⟩
    -- a key with the name of a method as its text is that text
    rw [hEntry', eq_str_of_text hMethod hMethods]
  · rintro ⟨paths, key, item, hPaths, hEntry, hPath, hEntered, hEntry', hMethod, hExcluded⟩
    refine ⟨op.pathIndex, _, getElem?_pathEntries.mpr ⟨paths, hPaths, hEntry⟩, ?_⟩
    refine operation_mem_encountersAt.mpr ⟨⟨hPath, isEntered_iff.mpr hEntered⟩, item,
      op.methodIndex, _, rfl, hEntry', encounterAt_eq_operation.mpr ?_⟩
    exact ⟨⟨rfl, List.contains_iff_mem.mpr hMethod⟩,
      ⟨rfl, isExcluded_eq_false_iff.mpr hExcluded⟩, rfl, rfl⟩

/-- **Visited** are the operations that stand in the document and are to be checked. -/
theorem mem_visited {document : Entries} {op : Operation} :
    op ∈ visited document ↔ op.StandsIn document := by
  rw [visited, List.mem_filterMap, ← operation_mem_encounters]
  simp only [Encounter.visited?_eq_some, exists_eq_right]

end Operation

-- ---------------------------------------------------------------------------
-- The order of visits
-- ---------------------------------------------------------------------------

namespace Operation

theorem pairwise_snd_zipIdx {α : Type} (l : List α) (n : Nat) :
    (l.zipIdx n).Pairwise fun p q => p.2 < q.2 := by
  have h : ((l.zipIdx n).map Prod.snd).Pairwise (· < ·) := by
    rw [List.zipIdx_map_snd]
    exact List.pairwise_lt_range'
  exact List.pairwise_map.mp h

/-- Encounters that, if they are operations, stand in the document in this order. -/
def Precedes (x y : Except Fault Encounter) : Prop :=
  ∀ op, Encounter.visited? x = some op → ∀ op', Encounter.visited? y = some op' →
    toLex op.origin < toLex op'.origin

theorem pathIndex_of_visited {entry : Key × Value} {i : Nat} {encounter : Except Fault Encounter}
    (h : encounter ∈ encountersAt i entry) {op : Operation}
    (hOp : Encounter.visited? encounter = some op) : op.pathIndex = i := by
  rw [Encounter.visited?_eq_some.mp hOp] at h
  obtain ⟨-, item, j, entry', -, -, hAt⟩ := operation_mem_encountersAt.mp h
  obtain ⟨-, -, -, hOrigin⟩ := encounterAt_eq_operation.mp hAt
  exact congrArg Prod.fst hOrigin

theorem pairwise_precedes_encountersAt (i : Nat) (entry : Key × Value) :
    (encountersAt i entry).Pairwise Precedes := by
  unfold encountersAt
  split
  · exact List.pairwise_singleton _ _
  · split
    · exact List.pairwise_singleton _ _
    · split
      · next item hItem =>
        rw [encountersIn, List.pairwise_filterMap]
        refine (pairwise_snd_zipIdx item 0).imp ?_
        rintro ⟨e, j⟩ ⟨e', j'⟩ hLess x hx x' hx' op hOp op' hOp'
        rw [Encounter.visited?_eq_some.mp hOp] at hx
        rw [Encounter.visited?_eq_some.mp hOp'] at hx'
        obtain ⟨-, -, -, hOrigin⟩ := encounterAt_eq_operation.mp hx
        obtain ⟨-, -, -, hOrigin'⟩ := encounterAt_eq_operation.mp hx'
        rw [hOrigin, hOrigin', Prod.Lex.toLex_lt_toLex]
        exact .inr ⟨rfl, hLess⟩
      · exact .nil

/-- Operations are visited in the strict order of their positions in the document. -/
theorem pairwise_origin_visited (document : Entries) :
    (visited document).Pairwise fun op op' => toLex op.origin < toLex op'.origin := by
  rw [visited, List.pairwise_filterMap, encounters, List.pairwise_flatMap]
  refine ⟨fun p _ => pairwise_precedes_encountersAt p.2 p.1, ?_⟩
  refine (pairwise_snd_zipIdx (pathEntries document) 0).imp ?_
  intro p p' hLess x hx x' hx' op hOp op' hOp'
  rw [Prod.Lex.toLex_lt_toLex]
  left
  show op.pathIndex < op'.pathIndex
  rw [pathIndex_of_visited hx hOp, pathIndex_of_visited hx' hOp']
  exact hLess

end Operation

-- ---------------------------------------------------------------------------
-- Origins of issues
-- ---------------------------------------------------------------------------

/-- The position of a rule in the order in which rules are applied. -/
def Rule.rank (rule : Rule) : Nat := Rule.all.idxOf rule

theorem Rule.rank_injective : Function.Injective Rule.rank := by
  intro rule rule' h
  exact (List.idxOf_inj (Rule.mem_all rule)).mp h

/-- Where an issue comes from: the positions of the path among the entries of `paths`, of the method
among those of its path item, of the rule, and of the place in what the rule lists. -/
def Issue.origin (i : Issue) : Nat ×ₗ Nat ×ₗ Nat ×ₗ Nat :=
  toLex (i.operation.pathIndex, toLex (i.operation.methodIndex, toLex (i.rule.rank, i.index)))

namespace Issue

theorem origin_lt_of_operation {i j : Issue}
    (h : toLex i.operation.origin < toLex j.operation.origin) : i.origin < j.origin := by
  rw [Prod.Lex.toLex_lt_toLex] at h
  simp only [origin, Prod.Lex.toLex_lt_toLex]
  rcases h with h | ⟨hPath, h⟩
  · exact .inl h
  · exact .inr ⟨hPath, .inl h⟩

theorem origin_lt_of_rank {i j : Issue} (hOp : i.operation = j.operation)
    (h : i.rule.rank < j.rule.rank) : i.origin < j.origin := by
  simp only [origin, Prod.Lex.toLex_lt_toLex, hOp, true_and]
  exact .inr (.inr (.inl h))

theorem origin_lt_of_index {i j : Issue} (hOp : i.operation = j.operation) (hRule : i.rule = j.rule)
    (h : i.index < j.index) : i.origin < j.origin := by
  simp only [origin, Prod.Lex.toLex_lt_toLex, hOp, hRule, true_and]
  exact .inr (.inr (.inr h))

theorem rule_eq_of_origin_eq {i j : Issue} (h : i.origin = j.origin) : i.rule = j.rule := by
  simp only [origin, toLex_inj, Prod.mk.injEq] at h
  exact Rule.rank_injective h.2.2.1

end Issue

namespace Lint

theorem pairwise_origin_issuesOf {document : Entries} {op : Operation} {rule : Rule}
    {is : List Issue} (h : issuesOf document op rule = .ok is) :
    is.Pairwise fun i j => i.origin < j.origin := by
  rw [issuesOf_eq_map] at h
  obtain ⟨places, -, rfl⟩ := map_eq_ok.mp h
  rw [List.pairwise_map]
  refine (Operation.pairwise_snd_zipIdx places 0).imp ?_
  intro p q hLess
  exact Issue.origin_lt_of_index rfl rfl hLess

theorem pairwise_rank_active (severities : Severities) :
    severities.active.Pairwise fun rule rule' => rule.rank < rule'.rank :=
  List.Pairwise.filter _ (by decide)

theorem pairwise_origin_issuesIn {document : Entries} {rules : List Rule} {op : Operation}
    (hRules : rules.Pairwise fun rule rule' => rule.rank < rule'.rank) {is : List Issue}
    (h : issuesIn document rules op = .ok is) : is.Pairwise fun i j => i.origin < j.origin := by
  rw [issuesIn_eq_gather] at h
  refine pairwise_gather h (fun _ _ _ his => pairwise_origin_issuesOf his) (hRules.imp ?_)
  intro rule rule' hLess is is' his his' i hi j hj
  obtain ⟨hOp, rfl⟩ := origin_of_mem_issuesOf his i hi
  obtain ⟨hOp', rfl⟩ := origin_of_mem_issuesOf his' j hj
  exact Issue.origin_lt_of_rank (hOp.trans hOp'.symm) hLess

-- ---------------------------------------------------------------------------
-- Visits
-- ---------------------------------------------------------------------------

/-- If all that a passage meets has a text, the issues are those of the operations to visit. -/
theorem gather_visited {α : Type} {f : Except Fault Encounter → Except Fault (List α)}
    {g : Operation → Except Fault (List α)} {l : List (Except Fault Encounter)} {bs : List α}
    (hVisit : ∀ op, f (.ok (.operation op)) = g op)
    (hPass : ∀ e, Encounter.visited? e = none → ∀ ys, f e = .ok ys → ys = [])
    (h : gather f l = .ok bs) : gather g (l.filterMap Encounter.visited?) = .ok bs := by
  induction l generalizing bs with
  | nil => exact h
  | cons e rest ih =>
    obtain ⟨ys, zs, hys, hzs, rfl⟩ := gather_cons_eq_ok.mp h
    cases hOp : Encounter.visited? e with
    | none =>
      rw [List.filterMap_cons_none hOp, hPass e hOp ys hys]
      exact ih hzs
    | some op =>
      rw [Encounter.visited?_eq_some.mp hOp, hVisit] at hys
      rw [List.filterMap_cons_some hOp]
      exact gather_cons_eq_ok.mpr ⟨ys, zs, hys, ih hzs, rfl⟩

/-- The issues of a document are those in the operations to visit. -/
theorem gather_issuesIn_visited {document : Entries} {rules : List Rule} {is : List Issue}
    (h : issues document rules = .ok is) :
    gather (issuesIn document rules) (Operation.visited document) = .ok is := by
  rw [issues_eq_gather] at h
  refine gather_visited (fun _ => rfl) ?_ h
  intro e hNone ys hys
  cases ys with
  | nil => rfl
  | cons i rest =>
    obtain ⟨op, rfl, -⟩ := operation_of_mem_issuesAt hys List.mem_cons_self
    cases hNone

/-- **A run is its visits**, one after the other. -/
theorem run_eq_visits {document : Entries} {severities : Severities} {found : Findings}
    (h : run document severities = .ok found) :
    (Operation.visited document).foldlM (visit document severities) Findings.empty = .ok found := by
  obtain ⟨is, hIssues, rfl⟩ := run_eq_ok.mp h
  have hStep : visit document severities = fun collected op =>
      (fun is => collected ++ sort severities is) <$> issuesIn document severities.active op := by
    funext collected op
    exact visit_eq_sort document severities op collected
  rw [hStep, foldlM_eq_gather Findings.append_empty (append_sort_append severities),
    gather_issuesIn_visited hIssues]
  exact congrArg Except.ok (Findings.empty_append _)

/-- **Issues come in the strict order of their origins.** -/
theorem pairwise_origin_issues {document : Entries} {rules : List Rule}
    (hRules : rules.Pairwise fun rule rule' => rule.rank < rule'.rank) {is : List Issue}
    (h : issues document rules = .ok is) : is.Pairwise fun i j => i.origin < j.origin := by
  refine pairwise_gather (gather_issuesIn_visited h)
    (fun _ _ _ his => pairwise_origin_issuesIn hRules his) ?_
  refine (Operation.pairwise_origin_visited document).imp ?_
  intro op op' hLess is is' his his' i hi j hj
  apply Issue.origin_lt_of_operation
  rw [(origin_of_mem_issuesIn his i hi).1, (origin_of_mem_issuesIn his' j hj).1]
  exact hLess

-- ---------------------------------------------------------------------------
-- Accounts
-- ---------------------------------------------------------------------------

/-- How one of the two lists of a run comes about: the issues behind its findings. -/
structure Accounts (document : Entries) (severities : Severities) (severity : Severity)
    (is : List Issue) (listed : List Finding) : Prop where
  findings : listed = is.map Issue.finding
  /-- Origins increase strictly. -/
  increasing : is.Pairwise fun i j => i.origin < j.origin
  /-- An issue is what a rule of the severity finds in a visited operation, at the position that its
  origin names. -/
  sound : ∀ i ∈ is, severities.of i.rule = severity ∧ i.operation.StandsIn document ∧
    ∃ fs, i.rule.check document i.operation = .ok fs ∧ fs[i.index]? = some i.finding
  /-- Whatever a rule of the severity finds in a visited operation is there. -/
  complete : ∀ op rule, op.StandsIn document → severities.of rule = severity →
    ∃ fs, rule.check document op = .ok fs ∧ ∀ (k : Nat) (f : Finding), fs[k]? = some f →
      ∃ i ∈ is, i.operation = op ∧ i.rule = rule ∧ i.index = k ∧ i.finding = f
  /-- The place of an issue lies in the operation that it comes from. -/
  located : ∀ i ∈ is, ∃ rest, i.finding.path =
    "paths." ++ i.operation.path ++ "." ++ i.operation.method ++ rest

/-- The issues of a rule in an operation are what it finds there, position by position. -/
theorem getElem?_issuesOf {document : Entries} {op : Operation} {rule : Rule} {is : List Issue}
    (h : issuesOf document op rule = .ok is) {k : Nat} {i : Issue} (hi : is[k]? = some i) :
    i.operation = op ∧ i.rule = rule ∧ i.index = k := by
  rw [issuesOf_eq_map] at h
  obtain ⟨places, -, rfl⟩ := map_eq_ok.mp h
  rw [List.getElem?_map, List.getElem?_zipIdx] at hi
  obtain ⟨p, hp, rfl⟩ := Option.map_eq_some_iff.mp hi
  obtain ⟨place, -, rfl⟩ := Option.map_eq_some_iff.mp hp
  exact ⟨rfl, rfl, Nat.zero_add k⟩

theorem check_of_issuesOf {document : Entries} {op : Operation} {rule : Rule} {is : List Issue}
    (h : issuesOf document op rule = .ok is) :
    rule.check document op = .ok (is.map Issue.finding) := by
  rw [check_eq_findings, h]
  rfl

/-- The place of an issue begins with the keys that lead to its operation. -/
theorem path_of_mem_issuesOf {document : Entries} {op : Operation} {rule : Rule} {is : List Issue}
    (h : issuesOf document op rule = .ok is) {i : Issue} (hi : i ∈ is) :
    ∃ rest, i.path = "paths." ++ op.path ++ "." ++ op.method ++ rest := by
  rw [issuesOf_eq_map] at h
  obtain ⟨places, hPlaces, rfl⟩ := map_eq_ok.mp h
  obtain ⟨ts, rfl, -⟩ := Rule.targeted_places hPlaces
  obtain ⟨⟨place, k⟩, hPlace, rfl⟩ := List.mem_map.mp hi
  obtain ⟨t, -, rfl⟩ := List.mem_map.mp (List.fst_mem_of_mem_zipIdx hPlace)
  refine ⟨"." ++ ".".intercalate (t.inner ++ [t.last]), ?_⟩
  have hRest : ∃ field fields, t.inner ++ [t.last] = field :: fields :=
    List.exists_cons_of_ne_nil (List.append_ne_nil_of_right_ne_nil _ (List.cons_ne_nil _ _))
  obtain ⟨field, fields, hFields⟩ := hRest
  rw [Operation.locate, Operation.place, hFields, String.intercalate_cons_cons,
    String.intercalate_cons_cons, String.intercalate_cons_cons]
  simp only [String.append_assoc]
  rfl

/-- The issues of one severity account for a list of a run. -/
theorem accounts_filter {document : Entries} {severities : Severities} {is : List Issue}
    (h : issues document severities.active = .ok is) (severity : Severity) (hOn : severity ≠ .off) :
    Accounts document severities severity (is.filter fun i => severities.of i.rule == severity)
      ((is.filter fun i => severities.of i.rule == severity).map Issue.finding) := by
  have hVisits := gather_issuesIn_visited h
  -- an issue of a run is one of a rule in an operation that is visited
  have hOf : ∀ i ∈ is, i.operation ∈ Operation.visited document ∧
      ∃ js, issuesOf document i.operation i.rule = .ok js ∧ i ∈ js := by
    intro i hi
    obtain ⟨op, hOp, js, hjs, hi⟩ := mem_of_gather hVisits i hi
    rw [issuesIn_eq_gather] at hjs
    obtain ⟨rule, -, ks, hks, hi⟩ := mem_of_gather hjs i hi
    obtain ⟨rfl, rfl⟩ := origin_of_mem_issuesOf hks i hi
    exact ⟨hOp, ks, hks, hi⟩
  refine ⟨rfl, ?_, ?_, ?_, ?_⟩
  · exact (pairwise_origin_issues (pairwise_rank_active severities) h).filter _
  · intro i hi
    obtain ⟨hi, hSeverity⟩ := List.mem_filter.mp hi
    obtain ⟨hOp, js, hjs, hMem⟩ := hOf i hi
    refine ⟨beq_iff_eq.mp hSeverity, Operation.mem_visited.mp hOp, _, check_of_issuesOf hjs, ?_⟩
    obtain ⟨k, hk⟩ := List.getElem?_of_mem hMem
    obtain ⟨-, -, rfl⟩ := getElem?_issuesOf hjs hk
    rw [List.getElem?_map, hk]
    rfl
  · intro op rule hOp hSeverity
    have hActive : rule ∈ severities.active := by
      refine List.mem_filter.mpr ⟨Rule.mem_all rule, ?_⟩
      rw [hSeverity]
      exact decide_eq_true hOn
    obtain ⟨js, hjs, hMem⟩ := ok_of_gather hVisits op (Operation.mem_visited.mpr hOp)
    rw [issuesIn_eq_gather] at hjs
    obtain ⟨ks, hks, hMem'⟩ := ok_of_gather hjs rule hActive
    refine ⟨_, check_of_issuesOf hks, ?_⟩
    intro k f hf
    rw [List.getElem?_map] at hf
    obtain ⟨i, hi, rfl⟩ := Option.map_eq_some_iff.mp hf
    obtain ⟨hOp', rfl, hIndex⟩ := getElem?_issuesOf hks hi
    refine ⟨i, List.mem_filter.mpr ⟨hMem i (hMem' i (List.mem_of_getElem? hi)), ?_⟩,
      hOp', rfl, hIndex, rfl⟩
    exact beq_iff_eq.mpr hSeverity
  · intro i hi
    obtain ⟨-, js, hjs, hMem⟩ := hOf i (List.mem_filter.mp hi).1
    exact path_of_mem_issuesOf hjs hMem

/-- **Coverage and order.** A run that completes visits exactly the operations that stand in the
document and are to be checked, each of them once and in the order of the document. Each of its two
lists accounts for all that the rules of its severity find in them and for nothing else, in the
strict order of the origins, and no origin occurs in both lists. -/
theorem runWith_covers {document : Entries} {settings : Settings} {found : Findings}
    (hRun : runWith document settings = .ok found) :
    (∀ op, op ∈ Operation.visited document ↔ op.StandsIn document) ∧
      (Operation.visited document).Pairwise (fun op op' => toLex op.origin < toLex op'.origin) ∧
      (Operation.visited document).foldlM (visit document (severitiesOf settings)) Findings.empty =
        .ok found ∧
      ∃ errors warnings,
        Accounts document (severitiesOf settings) .error errors found.errors ∧
        Accounts document (severitiesOf settings) .warning warnings found.warnings ∧
        ∀ i ∈ errors, ∀ j ∈ warnings, i.origin ≠ j.origin := by
  rw [runWith_eq_run] at hRun
  refine ⟨fun op => Operation.mem_visited, Operation.pairwise_origin_visited document,
    run_eq_visits hRun, ?_⟩
  obtain ⟨is, hIssues, rfl⟩ := run_eq_ok.mp hRun
  have hErrors := accounts_filter hIssues .error (by decide)
  have hWarnings := accounts_filter hIssues .warning (by decide)
  refine ⟨_, _, hErrors, hWarnings, ?_⟩
  intro i hi j hj hOrigin
  have hSame : Severity.error = Severity.warning := by
    rw [← (hErrors.sound i hi).1, ← (hWarnings.sound j hj).1, Issue.rule_eq_of_origin_eq hOrigin]
  cases hSame

/-- A document with all that a passage may meet: an extension, a path that leads to no mapping, two
paths with one text, a method that has opted out, one that leads to no mapping, and keys that are no
methods. -/
def mixedDocument : Entries := [
  (.str "paths", .map [
    (.str "x-internal", .map [(.str "get", .map [])]),
    (.str "/broken", .list []),
    (.int 1, .map [
      (.str "parameters", .list []),
      (.str "put", .map [(.str "summary", .str "Replace it")])]),
    (.str "1", .map [
      (.str "get", .map [(.str "x-sdk-exclude", .bool true)]),
      (.str "post", .null),
      (.str "GET", .map []),
      (.str "head", .map [(.str "x-sdk-exclude", .str "true")])])])]

/-- A bare mapping that makes missing defaults errors and missing summaries warnings. -/
def mixedSettings : Settings := .mapping [
  (.str Rule.summary.key, .str "warning"), (.str Rule.writeConsumes.key, .str "error"),
  (.str Rule.produces.key, .str "error")]

/-- What is found in it. -/
def mixedFindings : Findings where
  errors := [⟨"paths.1.put.consumes", Rule.writeConsumes.message⟩,
    ⟨"paths.1.put.produces", Rule.produces.message⟩]
  warnings := [⟨"paths.1.head.summary", Rule.summary.message⟩]

theorem runWith_covers_mixed :
    runWith mixedDocument mixedSettings = .ok mixedFindings ∧
      (∀ op : Operation, op.StandsIn mixedDocument → op.origin = (2, 1) ∨ op.origin = (3, 3)) ∧
      ∃ errors warnings : List Issue, errors.map Issue.finding = mixedFindings.errors ∧
        warnings.map Issue.finding = mixedFindings.warnings ∧
        ∀ i ∈ errors, ∀ j ∈ warnings, i.origin ≠ j.origin := by
  have hRun : runWith mixedDocument mixedSettings = .ok mixedFindings := by
    decide +kernel
  have hOrigins : (Operation.visited mixedDocument).map Operation.origin = [(2, 1), (3, 3)] := by
    decide +kernel
  obtain ⟨hVisited, -, -, errors, warnings, hErrors, hWarnings, hApart⟩ := runWith_covers hRun
  refine ⟨hRun, ?_, errors, warnings, hErrors.findings.symm, hWarnings.findings.symm, hApart⟩
  intro op hOp
  have hOrigin := List.mem_map_of_mem (f := Operation.origin) ((hVisited op).mpr hOp)
  rw [hOrigins] at hOrigin
  simpa using hOrigin

end Lint

end ApiLint
