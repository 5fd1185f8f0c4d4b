import ApiLint.Proofs.Issues
import ApiLint.Proofs.Locator
import ApiLint.Proofs.Site

/-!
# What findings are told apart by

In a document whose paths and answers have texts as keys, a place belongs to one finding. There is
one exception: an answer under one path may be written like an answer under another path that goes
on with what stands between a path and the name of an answer.

* `Operation.pairwise_encounters` — operations differ in path or method;
* `Lint.pairwise_issues` — issues differ in place, with this exception;
* `Lint.runWith_places` — so do the findings of a run.
-/

namespace ApiLint

open Outcome

-- ---------------------------------------------------------------------------
-- Operations
-- ---------------------------------------------------------------------------

namespace Operation

theorem pairwise_zipIdx {es : Entries} (h : es.Distinct) (n : Nat) :
    (es.zipIdx n).Pairwise fun p p' => p.1.1.Apart p'.1.1 := by
  rw [Entries.Distinct, ← List.zipIdx_map_fst n es, List.map_map] at h
  exact List.pairwise_map.mp h

section EveryMap

variable {P : Entries → Prop} {document : Entries}

theorem everyMap_pathEntries (hNil : P []) (h : (Value.map document).EveryMap P) :
    (Value.map (pathEntries document)).EveryMap P := by
  unfold pathEntries
  split
  · next hPaths => exact h.of_field? hPaths
  · exact Value.everyMap_map.mpr ⟨hNil, fun _ he => absurd he List.not_mem_nil⟩

theorem everyMap_fields (hNil : P []) (h : (Value.map document).EveryMap P) {op : Operation}
    (hOp : .ok (.operation op) ∈ encounters document) : (Value.map op.fields).EveryMap P := by
  obtain ⟨i, entry, hEntry, hOp⟩ := mem_encounters.mp hOp
  obtain ⟨-, item, j, entry', hItem, hEntry', hOp⟩ := operation_mem_encountersAt.mp hOp
  obtain ⟨-, ⟨hFields, -⟩, -⟩ := encounterAt_eq_operation.mp hOp
  have hItemAll : entry.2.EveryMap P :=
    (Value.everyMap_map.mp (everyMap_pathEntries hNil h)).2 entry (List.mem_of_getElem? hEntry)
  rw [hItem] at hItemAll
  rw [← hFields]
  exact (Value.everyMap_map.mp hItemAll).2 entry' (List.mem_of_getElem? hEntry')

/-- A condition on all mappings in a document holds of the answers of its operations. -/
theorem answers_of_everyMap (hNil : P []) (h : (Value.map document).EveryMap P) {op : Operation}
    (hOp : .ok (.operation op) ∈ encounters document) : P op.answers := by
  unfold answers
  split
  · next hResponses =>
    exact (Value.everyMap_map.mp ((everyMap_fields hNil h hOp).of_field? hResponses)).1
  · exact hNil

end EveryMap

theorem method_mem_methods {document : Entries} {op : Operation}
    (hOp : .ok (.operation op) ∈ encounters document) : op.method ∈ methods := by
  obtain ⟨i, entry, -, hOp⟩ := mem_encounters.mp hOp
  obtain ⟨-, item, j, entry', -, -, hOp⟩ := operation_mem_encountersAt.mp hOp
  obtain ⟨⟨-, hMethod⟩, -⟩ := encounterAt_eq_operation.mp hOp
  exact List.contains_iff_mem.mp hMethod

/-- Whether the answers of an operation that a document may yield have texts as names, each of them
once. -/
structure Named (op : Operation) : Prop where
  method : op.method ∈ methods
  texts : op.method = "get" → op.answers.Texts
  distinct : op.answers.Distinct

/-- Encounters that are not two operations with one path and one method. -/
def Differ (x y : Except Fault Encounter) : Prop :=
  ∀ op op', x = .ok (.operation op) → y = .ok (.operation op') →
    ¬ (op.path = op'.path ∧ op.method = op'.method)

theorem pairwise_encountersAt {entry : Key × Value} (h : entry.2.WellFormed) (i : Nat) :
    (encountersAt i entry).Pairwise Differ := by
  unfold encountersAt
  split
  · exact List.pairwise_singleton _ _
  · next path hText =>
    split
    · exact List.pairwise_singleton _ _
    · split
      · next item hItem =>
        rw [hItem] at h
        rw [encountersIn, List.pairwise_filterMap]
        -- the key of an operation is the name of its method, whatever keys there are besides
        refine (pairwise_zipIdx (Value.everyMap_map.mp h).1 0).imp ?_
        rintro ⟨e, j⟩ ⟨e', j'⟩ hApart x hx x' hx' op op' rfl rfl ⟨-, hMethods⟩
        obtain ⟨⟨hKey, hMethod⟩, -⟩ := encounterAt_eq_operation.mp hx
        obtain ⟨⟨hKey', hMethod'⟩, -⟩ := encounterAt_eq_operation.mp hx'
        rw [eq_str_of_text hKey hMethod, eq_str_of_text hKey' hMethod'] at hApart
        exact hApart.ne hMethods
      · exact .nil

theorem pairwise_encounters {document : Entries} (h : (Value.map document).WellFormed)
    (hKeys : (pathEntries document).Texts) : (encounters document).Pairwise Differ := by
  obtain ⟨hDistinct, hParts⟩ := Value.everyMap_map.mp (everyMap_pathEntries .nil h)
  rw [encounters, List.pairwise_flatMap]
  constructor
  -- operations under one path differ in their methods, all others in their paths
  · rintro ⟨entry, i⟩ hEntry
    exact pairwise_encountersAt (hParts entry (List.fst_mem_of_mem_zipIdx hEntry)) i
  · refine (pairwise_zipIdx hDistinct 0).imp_of_mem ?_
    rintro ⟨e, i⟩ ⟨e', i'⟩ he he' hApart x hx x' hx' op op' rfl rfl ⟨hPaths, -⟩
    obtain ⟨s, hs⟩ := hKeys e (List.fst_mem_of_mem_zipIdx he)
    obtain ⟨s', hs'⟩ := hKeys e' (List.fst_mem_of_mem_zipIdx he')
    obtain ⟨⟨hText, -⟩, -⟩ := operation_mem_encountersAt.mp hx
    obtain ⟨⟨hText', -⟩, -⟩ := operation_mem_encountersAt.mp hx'
    dsimp only at hApart
    rw [hs] at hText hApart
    rw [hs'] at hText' hApart
    cases hText
    cases hText'
    exact hApart.ne hPaths

end Operation

-- ---------------------------------------------------------------------------
-- Issues
-- ---------------------------------------------------------------------------

/-- An issue about a target: its rule aims at it, and its place is where the target is. -/
structure Issue.About (i : Issue) (t : Target) : Prop where
  method : i.operation.method ∈ Operation.methods
  aims : i.rule.Aims i.operation t
  path : i.path = i.operation.locate t

/-- The exception: two answers, one of them under a path that goes on after the path of the
other. -/
def Issue.Overlap (i j : Issue) : Prop :=
  i.rule = .arrayResponse ∧ j.rule = .arrayResponse ∧
    (Operation.Continues i.operation.path j.operation.path ∨
      Operation.Continues j.operation.path i.operation.path)

/-- Two issues that are told apart by their places, with the exception. -/
def Issue.Apart (i j : Issue) : Prop := i.path = j.path → i.Overlap j

namespace Issue

theorem Apart.symm {i j : Issue} (h : i.Apart j) : j.Apart i := by
  intro hPath
  obtain ⟨hi, hj, hPaths⟩ := h hPath.symm
  exact ⟨hj, hi, hPaths.symm⟩

/-- Issues about different things are told apart by their places. -/
theorem About.apart {i j : Issue} {t t' : Target} (hi : i.About t) (hj : j.About t')
    (h : ¬ (i.operation.path = j.operation.path ∧ i.operation.method = j.operation.method ∧
      i.rule = j.rule ∧ t = t')) : i.Apart j := by
  intro hPath
  rw [hi.path, hj.path] at hPath
  exact (hi.aims.unique hi.method hj.method hj.aims hPath).resolve_left h

end Issue

namespace Lint

section Named

variable {document : Entries} {op : Operation} (hNamed : op.Named)

include hNamed

/-- The issues of a rule are about different targets. -/
theorem issuesOf_eq_map_targets {rule : Rule} {is : List Issue}
    (h : issuesOf document op rule = .ok is) :
    ∃ ts : List Target, ts.Nodup ∧ (∀ t ∈ ts, rule.Aims op t) ∧
      is = ts.zipIdx.map fun (t, index) => ⟨op, rule, index, op.locate t⟩ := by
  rw [issuesOf_eq_map] at h
  obtain ⟨places, hPlaces, rfl⟩ := map_eq_ok.mp h
  obtain ⟨ts, rfl, hAims, hNodup⟩ := Rule.targeted_places hPlaces
  refine ⟨ts, hNodup hNamed.texts hNamed.distinct, hAims, ?_⟩
  rw [List.zipIdx_map, List.map_map]
  rfl

theorem about_of_mem_issuesOf {rule : Rule} {is : List Issue}
    (h : issuesOf document op rule = .ok is) {i : Issue} (hi : i ∈ is) :
    i.operation = op ∧ i.rule = rule ∧ ∃ t, i.About t := by
  obtain ⟨ts, -, hAims, rfl⟩ := issuesOf_eq_map_targets hNamed h
  obtain ⟨⟨t, index⟩, ht, rfl⟩ := List.mem_map.mp hi
  exact ⟨rfl, rfl, t, hNamed.method, hAims t (List.fst_mem_of_mem_zipIdx ht), rfl⟩

theorem pairwise_issuesOf {rule : Rule} {is : List Issue}
    (h : issuesOf document op rule = .ok is) : is.Pairwise Issue.Apart := by
  obtain ⟨ts, hNodup, hAims, rfl⟩ := issuesOf_eq_map_targets hNamed h
  have hZip : ts.zipIdx.Pairwise fun p p' => p.1 ≠ p'.1 := by
    rw [← List.zipIdx_map_fst 0 ts] at hNodup
    exact List.pairwise_map.mp hNodup
  rw [List.pairwise_map]
  refine hZip.imp_of_mem ?_
  rintro ⟨t, index⟩ ⟨t', index'⟩ ht ht' hNe
  have hi : Issue.About ⟨op, rule, index, op.locate t⟩ t :=
    ⟨hNamed.method, hAims t (List.fst_mem_of_mem_zipIdx ht), rfl⟩
  have hj : Issue.About ⟨op, rule, index', op.locate t'⟩ t' :=
    ⟨hNamed.method, hAims t' (List.fst_mem_of_mem_zipIdx ht'), rfl⟩
  exact hi.apart hj fun hSame => hNe hSame.2.2.2

theorem about_of_mem_issuesIn {rules : List Rule} {is : List Issue}
    (h : issuesIn document rules op = .ok is) {i : Issue} (hi : i ∈ is) :
    i.operation = op ∧ ∃ t, i.About t := by
  rw [issuesIn_eq_gather] at h
  obtain ⟨rule, -, js, hjs, hi⟩ := mem_of_gather h i hi
  obtain ⟨hOp, -, hAbout⟩ := about_of_mem_issuesOf hNamed hjs hi
  exact ⟨hOp, hAbout⟩

theorem pairwise_issuesIn {rules : List Rule} (hRules : rules.Nodup)
    {is : List Issue} (h : issuesIn document rules op = .ok is) : is.Pairwise Issue.Apart := by
  rw [issuesIn_eq_gather] at h
  refine pairwise_gather h (fun _ _ _ hjs => pairwise_issuesOf hNamed hjs) (hRules.imp ?_)
  intro rule rule' hNe is is' his his' i hi j hj
  obtain ⟨-, rfl, t, hAbout⟩ := about_of_mem_issuesOf hNamed his hi
  obtain ⟨-, rfl, t', hAbout'⟩ := about_of_mem_issuesOf hNamed his' hj
  exact hAbout.apart hAbout' fun hSame => hNe hSame.2.2.1

end Named

/-- The issues at an encounter are those in an operation, unless there are none. -/
theorem operation_of_mem_issuesAt {document : Entries} {rules : List Rule}
    {encounter : Except Fault Encounter} {is : List Issue}
    (h : issuesAt document rules encounter = .ok is) {i : Issue} (hi : i ∈ is) :
    ∃ op, encounter = .ok (.operation op) ∧ issuesIn document rules op = .ok is := by
  obtain ⟨met, rfl, h⟩ := bind_eq_ok.mp h
  cases met with
  | operation op => exact ⟨op, rfl, h⟩
  | _ =>
    cases h
    cases hi

/-- **Issues are told apart by their places**, with the one exception. -/
theorem pairwise_issues {document : Entries} (hWell : (Value.map document).WellFormed)
    (hPaths : (Operation.pathEntries document).Texts)
    (hAnswers : ∀ op, .ok (.operation op) ∈ Operation.encounters document → op.method = "get" →
      op.answers.Texts)
    {rules : List Rule} (hRules : rules.Nodup) {is : List Issue}
    (h : issues document rules = .ok is) : is.Pairwise Issue.Apart := by
  have hNamed : ∀ op, .ok (.operation op) ∈ Operation.encounters document → op.Named :=
    fun op hOp => ⟨Operation.method_mem_methods hOp, hAnswers op hOp,
      Operation.answers_of_everyMap .nil hWell hOp⟩
  rw [issues_eq_gather] at h
  refine pairwise_gather h ?_ ?_
  · intro encounter hEncounter js hjs
    cases js with
    | nil => exact .nil
    | cons i rest =>
      obtain ⟨op, rfl, hIn⟩ := operation_of_mem_issuesAt hjs List.mem_cons_self
      exact pairwise_issuesIn (hNamed op hEncounter) hRules hIn
  · refine (Operation.pairwise_encounters hWell hPaths).imp_of_mem ?_
    intro x x' hx hx' hDiffer js js' hjs hjs' i hi j hj
    obtain ⟨op, rfl, hIn⟩ := operation_of_mem_issuesAt hjs hi
    obtain ⟨op', rfl, hIn'⟩ := operation_of_mem_issuesAt hjs' hj
    obtain ⟨rfl, t, hAbout⟩ := about_of_mem_issuesIn (hNamed op hx) hIn hi
    obtain ⟨rfl, t', hAbout'⟩ := about_of_mem_issuesIn (hNamed op' hx') hIn' hj
    exact hAbout.apart hAbout' fun hSame => hDiffer _ _ rfl rfl ⟨hSame.1, hSame.2.1⟩

-- ---------------------------------------------------------------------------
-- Findings
-- ---------------------------------------------------------------------------

/-- The issues that a run reports, in the order of its findings: errors first. -/
def reported (severities : Severities) (is : List Issue) : List Issue :=
  (is.filter fun i => severities.of i.rule == .error) ++
    is.filter fun i => severities.of i.rule == .warning

theorem findings_sort (severities : Severities) (is : List Issue) :
    (sort severities is).errors ++ (sort severities is).warnings =
      (reported severities is).map Issue.finding :=
  List.map_append.symm

theorem pairwise_reported {is : List Issue} (severities : Severities)
    (h : is.Pairwise Issue.Apart) : (reported severities is).Pairwise Issue.Apart := by
  -- the two lists are parts of the issues split by whether they are errors
  have hWarnings : (is.filter fun i => severities.of i.rule == .warning).Sublist
      (is.filter fun i => !(severities.of i.rule == .error)) := by
    apply List.monotone_filter_right
    intro i hWarning
    rw [beq_iff_eq.mp hWarning]
    rfl
  have hSplit := List.filter_append_perm (fun i : Issue => severities.of i.rule == .error) is
  have hAll := (hSplit.pairwise_iff Issue.Apart.symm).mpr h
  exact hAll.sublist ((List.Sublist.refl _).append hWarnings)

theorem nodup_active (severities : Severities) : severities.active.Nodup :=
  List.Nodup.filter _ (by decide)

theorem apart_of_positions {is : List Issue} (h : is.Pairwise Issue.Apart) {m n : Nat} (hNe : m ≠ n)
    {i j : Issue} (hi : is[m]? = some i) (hj : is[n]? = some j) : i.Apart j := by
  obtain ⟨hm, rfl⟩ := List.getElem?_eq_some_iff.mp hi
  obtain ⟨hn, rfl⟩ := List.getElem?_eq_some_iff.mp hj
  rcases Nat.lt_or_gt_of_ne hNe with hLess | hLess
  · exact List.pairwise_iff_getElem.mp h m n hm hn hLess
  · exact (List.pairwise_iff_getElem.mp h n m hn hm hLess).symm

/-- **Findings are told apart by their places, with one exception.** The keys of `paths` and of the
answers of all GET operations are texts. The findings of a run are those of some issues, and if two
of them at different positions have the same place, then both are about answers that are arrays, and
the path of one of them goes on after the path of the other with `.get.responses`. -/
theorem runWith_places {document : Entries} (hWell : (Value.map document).WellFormed)
    (hPaths : (Operation.pathEntries document).Texts)
    (hAnswers : ∀ op, .ok (.operation op) ∈ Operation.encounters document → op.method = "get" →
      op.answers.Texts)
    {settings : Settings} {found : Findings} (hRun : runWith document settings = .ok found) :
    ∃ is, issues document (severitiesOf settings).active = .ok is ∧
      found.errors ++ found.warnings = (reported (severitiesOf settings) is).map Issue.finding ∧
      ∀ (m n : Nat) (i j : Issue), m ≠ n →
        (reported (severitiesOf settings) is)[m]? = some i →
        (reported (severitiesOf settings) is)[n]? = some j → i.path = j.path →
        i.rule = .arrayResponse ∧ j.rule = .arrayResponse ∧
          (Operation.Continues i.operation.path j.operation.path ∨
            Operation.Continues j.operation.path i.operation.path) := by
  rw [runWith_eq_run] at hRun
  obtain ⟨is, hIssues, rfl⟩ := run_eq_ok.mp hRun
  refine ⟨is, hIssues, findings_sort _ is, ?_⟩
  have hApart := pairwise_reported (severitiesOf settings)
    (pairwise_issues hWell hPaths hAnswers (nodup_active _) hIssues)
  intro m n i j hNe hi hj
  exact apart_of_positions hApart hNe hi hj

/-- An answer that is an array. -/
def arrayAnswer : Value := .map [(.str "schema", .map [(.str "type", .str "array")])]

/-- A document with two paths, of which the second one goes on after the first one. -/
def overlappingDocument : Entries := [
  (.str "paths", .map [
    (.str "/a", .map [
      (.str "get", .map [(.str "responses", .map [(.str "get.responses.200", arrayAnswer)])])]),
    (.str "/a.get.responses", .map [
      (.str "get", .map [(.str "responses", .map [(.str "200", arrayAnswer)])])])])]

/-- The one finding for each path. -/
def overlappingFindings : Findings where
  errors := [
    ⟨"paths./a.get.responses.get.responses.200.schema", Rule.arrayResponse.message⟩,
    ⟨"paths./a.get.responses.get.responses.200.schema", Rule.arrayResponse.message⟩]
  warnings := []

/-- The settings for the one rule. -/
def arraySettings : Settings := .mapping [(.str Rule.arrayResponse.key, .str "error")]

theorem overlappingDocument_wellFormed : (Value.map overlappingDocument).WellFormed := by
  simp only [Value.WellFormed, overlappingDocument, arrayAnswer, Value.EveryMap,
    Value.EveryMapInEntries, and_true]
  and_intros
  all_goals exact Entries.Distinct.of_ofPairs rfl

theorem overlappingDocument_texts : (Value.map overlappingDocument).EveryMap Entries.Texts := by
  simp [overlappingDocument, arrayAnswer, Value.EveryMap, Value.EveryMapInEntries, Entries.Texts]

theorem runWith_places_overlapping :
    runWith overlappingDocument arraySettings = .ok overlappingFindings ∧
      ∃ is i j, issues overlappingDocument (severitiesOf arraySettings).active = .ok is ∧
        reported (severitiesOf arraySettings) is = [i, j] ∧ i.finding = j.finding ∧
        (Operation.Continues i.operation.path j.operation.path ∨
          Operation.Continues j.operation.path i.operation.path) := by
  have hRun : runWith overlappingDocument arraySettings = .ok overlappingFindings := by
    decide +kernel
  have hPaths := (Value.everyMap_map.mp
    (Operation.everyMap_pathEntries Entries.texts_nil overlappingDocument_texts)).1
  obtain ⟨is, hIssues, hFindings, hPlaces⟩ := runWith_places overlappingDocument_wellFormed hPaths
    (fun _ hOp _ =>
      Operation.answers_of_everyMap Entries.texts_nil overlappingDocument_texts hOp) hRun
  obtain ⟨i, rest, hReported, hi, hRest⟩ := List.map_eq_cons_iff.mp hFindings.symm
  obtain ⟨j, rest, rfl, hj, hNil⟩ := List.map_eq_cons_iff.mp hRest
  obtain rfl := List.map_eq_nil_iff.mp hNil
  have hSame : i.finding = j.finding := hi.trans hj.symm
  rw [hReported] at hPlaces
  obtain ⟨-, -, hContinues⟩ :=
    hPlaces 0 1 i j Nat.zero_ne_one rfl rfl (congrArg Finding.path hSame)
  exact ⟨hRun, is, i, j, hIssues, hReported, hSame, hContinues⟩

end Lint

end ApiLint
