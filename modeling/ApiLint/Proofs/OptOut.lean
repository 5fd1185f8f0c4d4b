import ApiLint.Proofs.Issues
import ApiLint.Proofs.Likeness
import ApiLint.Proofs.Site

/-!
# Opting out is local

An operation that opts out gains an entry, and with it changes every value that it is part of. A
pointer of another operation may lead through such a value or end at one. `Marked` relates the
values before and after; a walk that does not ask for the mark goes through related values, and
rules see no difference between them.

* `Marked.likeness` — rules cannot tell related values apart;
* `Marked.look_eq` — a node that does not ask for the mark looks the same in related documents;
* `Lint.runWith_optOut` — an operation that opts out takes its own findings away and no others.
-/

namespace ApiLint

open Outcome

/-- The entry that opting out adds. -/
def exclusion : Key × Value := (.str Operation.excludeKey, .bool true)

/-- A value as it was and as it is after a mapping in it has opted out. -/
inductive Marked : Value → Value → Prop
  | same (v : Value) : Marked v v
  | mark (fields : Entries) : Marked (.map fields) (.map (fields ++ [exclusion]))
  | entry (slot : Slot) {v w : Value} (hPart : Marked v w) :
      Marked (.map (slot.fill v)) (.map (slot.fill w))

namespace Marked

-- ---------------------------------------------------------------------------
-- Parts of related values
-- ---------------------------------------------------------------------------

theorem rel_same (found : Option Value) : Option.Rel Marked found found := by
  cases found with
  | none => exact .none
  | some v => exact .some (.same v)

theorem get?_exclusion (fields : Entries) {key : Key}
    (hKey : key.same (.str Operation.excludeKey) = false) :
    Entries.get? (fields ++ [exclusion]) key = fields.get? key := by
  rw [Entries.get?_append, Entries.get?_cons, exclusion, hKey]
  exact Option.or_none

/-- At any key but the mark there are related values. -/
theorem get? {es fs : Entries} (h : Marked (.map es) (.map fs)) {key : Key}
    (hKey : key.same (.str Operation.excludeKey) = false) :
    Option.Rel Marked (es.get? key) (fs.get? key) := by
  cases h with
  | same => exact rel_same _
  | mark =>
    rw [get?_exclusion es hKey]
    exact rel_same _
  | entry slot hPart =>
    rw [Slot.get?_fill, Slot.get?_fill]
    apply Entries.rel_or (rel_same _)
    split
    · exact .some hPart
    · exact rel_same _

theorem child?_map {es fs : Entries} (h : Marked (.map es) (.map fs)) {segment : String}
    (hSegment : segment ≠ Operation.excludeKey) (index : Option Nat) :
    Option.Rel Marked (Pointer.child? (.map es) segment index)
      (Pointer.child? (.map fs) segment index) := by
  apply Entries.rel_or (h.get? (Key.str_same_str_of_ne hSegment))
  cases index with
  | none => exact .none
  | some n => exact h.get? (Key.int_same_str n _)

/-- Rules cannot tell related values apart unless a pointer asks for the mark. -/
theorem likeness : Likeness (· ≠ Operation.excludeKey) Marked where
  alike := by
    intro v w h
    have hItems : ∀ items : List Value, List.Forall₂ Marked items items := fun items =>
      List.forall₂_same.mpr fun v _ => .same v
    cases h with
    | same =>
      cases v with
      | scalar s => exact .scalar s
      | set items => exact .set items
      | list items => exact .list (hItems items)
      | tuple items => exact .tuple (hItems items)
      | map es => exact .map es es
    | mark fields => exact .map _ _
    | entry slot _ => exact .map _ _
  scalar := fun s => .same (.scalar s)
  entry := fun h hSegment => child?_map h hSegment _
  type := by decide
  required := by decide

end Marked

/-- A node that does not ask for a segment: if it is a reference into the document, its pointer does
not contain the segment. -/
def Reference.Avoids (segment : String) (node : Value) : Prop :=
  ∀ pointer ∈ pointer? node, segment ∉ Pointer.segments pointer

instance (segment : String) : DecidablePred (Reference.Avoids segment) := fun node =>
  inferInstanceAs (Decidable (∀ pointer ∈ Reference.pointer? node,
    segment ∉ Pointer.segments pointer))

/-- A node that does not ask for the mark looks the same in related documents. -/
theorem Marked.look_eq {document document' node : Value} (h : Marked document document')
    (hNode : Reference.Avoids Operation.excludeKey node) :
    Rule.look document node = Rule.look document' node := by
  refine Marked.likeness.look_eq h (.same node) (by decide) ?_
  intro pointer hPointer segment hSegment hMark
  exact hNode pointer hPointer (hMark ▸ hSegment)

-- ---------------------------------------------------------------------------
-- The document with the mark
-- ---------------------------------------------------------------------------

namespace Operation

theorem isExcluded_mark {fields : Entries} (h : fields.field? excludeKey = none) :
    isExcluded (fields ++ [exclusion]) = true := by
  rw [Entries.field?] at h
  unfold isExcluded
  rw [Entries.field?, Entries.get?_append, h]
  rfl

namespace Site

variable {op : Operation} (site : Site op)

theorem marked_document (fields : Entries) :
    Marked (.map (site.document fields)) (.map (site.document (fields ++ [exclusion]))) :=
  .entry site.root (.entry site.paths (.entry site.item (.mark fields)))

/-- The defaults of the document root do not depend on the fields of the operation. -/
theorem isDeclared_document {name : String} (hName : name ≠ "paths") (fields fields' : Entries) :
    Rule.isDeclared (site.document fields) name = Rule.isDeclared (site.document fields') name := by
  have hKey : (Key.str name).same site.root.key = false := by
    rw [Key.same_str.mp site.hRoot]
    exact Key.str_same_str_of_ne hName
  have hField : (site.document fields).field? name = (site.document fields').field? name := by
    rw [document, document, Entries.field?, Entries.field?, Slot.get?_fill, Slot.get?_fill, hKey]
    rfl
  rw [Rule.isDeclared, Rule.isDeclared, hField]

/-- Rules find the same places in another operation, whether this one has opted out or not. -/
theorem places_document {other : Operation}
    (hNodes : ∀ node ∈ other.nodes, Reference.Avoids excludeKey node) (fields : Entries)
    (rule : Rule) :
    rule.places (site.document fields) other =
      rule.places (site.document (fields ++ [exclusion])) other := by
  apply Rule.places_congr
  · exact site.isDeclared_document (by decide) _ _
  · exact site.isDeclared_document (by decide) _ _
  · intro node hNode
    exact (site.marked_document fields).look_eq (hNodes node (mem_nodes_of_followed hNode))

end Site

/-- An operation without the mark has a site, and the document in which it has opted out differs
from the document in that one encounter. -/
theorem exists_site_optOut {document : Entries} {op : Operation}
    (hOp : .ok (.operation op) ∈ encounters document)
    (hMark : op.fields.field? excludeKey = none) :
    ∃ site : Site op, document = site.document op.fields ∧
      optOut document op = site.document (op.fields ++ [exclusion]) ∧
      encounters document = site.before ++ .ok (.operation op) :: site.after ∧
      encounters (optOut document op) =
        site.before ++ .ok (.excluded op.method op.path) :: site.after := by
  obtain ⟨hExcluded, site, rfl⟩ := exists_site hOp
  have hOptOut : optOut (site.document op.fields) op =
      site.document (op.fields ++ [exclusion]) := by
    rw [site.optOut_document, Entries.insert_of_field?_eq_none hMark]
    rfl
  refine ⟨site, rfl, hOptOut, ?_, ?_⟩
  · rw [site.encounters_document, Site.met, hExcluded]
    rfl
  · rw [hOptOut, site.encounters_document, Site.met, isExcluded_mark hMark]
    rfl

end Operation

-- ---------------------------------------------------------------------------
-- Runs
-- ---------------------------------------------------------------------------

namespace Lint

open Operation

/-- The issues at encounters come from the operations that are met there. -/
theorem met_of_mem_gather {document : Entries} {rules : List Rule}
    {encounters : List (Except Fault Encounter)} {is : List Issue}
    (h : gather (issuesAt document rules) encounters = .ok is) :
    ∀ i ∈ is, .ok (.operation i.operation) ∈ encounters := by
  intro i hi
  obtain ⟨encounter, hEncounter, js, hjs, hi⟩ := mem_of_gather h i hi
  cases encounter with
  | error fault => cases hjs
  | ok met =>
    cases met with
    | extension path =>
      cases hjs
      cases hi
    | excluded method path =>
      cases hjs
      cases hi
    | operation op =>
      obtain ⟨rfl, -⟩ := origin_of_mem_issuesIn hjs i hi
      exact hEncounter

/-- A list with the issues of one operation in the middle, sorted by origin. -/
theorem filter_origin {origin : Nat × Nat} {before own after : List Issue}
    (hBefore : ∀ i ∈ before, i.operation.origin ≠ origin)
    (hOwn : ∀ i ∈ own, i.operation.origin = origin)
    (hAfter : ∀ i ∈ after, i.operation.origin ≠ origin) :
    ((before ++ (own ++ after)).filter fun i => i.operation.origin = origin) = own ∧
      ((before ++ (own ++ after)).filter fun i => i.operation.origin ≠ origin) =
        before ++ after := by
  have hOut {is : List Issue} (h : ∀ i ∈ is, i.operation.origin ≠ origin) :
      (is.filter fun i => i.operation.origin = origin) = [] ∧
        (is.filter fun i => i.operation.origin ≠ origin) = is := by
    rw [List.filter_eq_nil_iff, List.filter_eq_self]
    simpa using h
  have hIn : (own.filter fun i => i.operation.origin = origin) = own ∧
      (own.filter fun i => i.operation.origin ≠ origin) = [] := by
    rw [List.filter_eq_nil_iff, List.filter_eq_self]
    simpa using hOwn
  simp only [List.filter_append, hOut hBefore, hOut hAfter, hIn, List.nil_append, List.append_nil,
    and_self]

/-- Other operations have the same issues, whether the one at the site has opted out or not. -/
theorem gather_document {op : Operation} (site : Site op) {rules : List Rule}
    {others : List (Except Fault Encounter)}
    (hNodes : ∀ other, .ok (.operation other) ∈ others →
      ∀ node ∈ other.nodes, Reference.Avoids excludeKey node) (fields : Entries) :
    gather (issuesAt (site.document fields) rules) others =
      gather (issuesAt (site.document (fields ++ [exclusion])) rules) others := by
  apply gather_congr
  rintro encounter hEncounter
  apply issuesAt_congr
  rintro other rfl rule
  exact site.places_document (hNodes other hEncounter) fields rule

/-- The issues of a document in which an operation has opted out are those of the other operations
before. -/
theorem issues_optOut {document : Entries} {rules : List Rule} {op : Operation} {is : List Issue}
    (hOp : .ok (.operation op) ∈ encounters document)
    (hMark : op.fields.field? excludeKey = none)
    (hNodes : ∀ other, .ok (.operation other) ∈ encounters document → other.origin ≠ op.origin →
      ∀ node ∈ other.nodes, Reference.Avoids excludeKey node)
    (h : issues document rules = .ok is) :
    issuesIn document rules op = .ok (is.filter fun i => i.operation.origin = op.origin) ∧
      issues (optOut document op) rules =
        .ok (is.filter fun i => i.operation.origin ≠ op.origin) := by
  obtain ⟨site, hDocument, hOptOut, hEncounters, hEncounters'⟩ := exists_site_optOut hOp hMark
  rw [hEncounters] at hNodes
  rw [issues_eq_gather, hEncounters, hDocument] at h
  rw [issues_eq_gather, hEncounters', hOptOut, hDocument]
  obtain ⟨before, rest, hBefore, hRest, rfl⟩ := gather_append_eq_ok.mp h
  obtain ⟨own, after, hOwn, hAfter, rfl⟩ := gather_cons_eq_ok.mp hRest
  have hOwnOrigin : ∀ i ∈ own, i.operation.origin = op.origin := by
    intro i hi
    rw [(origin_of_mem_issuesIn hOwn i hi).1]
  have hBeforeOrigin : ∀ i ∈ before, i.operation.origin ≠ op.origin := by
    intro i hi
    exact site.origin_of_mem_before (met_of_mem_gather hBefore i hi)
  have hAfterOrigin : ∀ i ∈ after, i.operation.origin ≠ op.origin := by
    intro i hi
    exact site.origin_of_mem_after (met_of_mem_gather hAfter i hi)
  -- around the operation both documents are met with the same encounters and give the same issues
  have hBefore' : gather (issuesAt (site.document (op.fields ++ [exclusion])) rules) site.before =
      .ok before := by
    rw [← gather_document site, hBefore]
    intro other hOther
    exact hNodes other (List.mem_append_left _ hOther) (site.origin_of_mem_before hOther)
  have hAfter' : gather (issuesAt (site.document (op.fields ++ [exclusion])) rules) site.after =
      .ok after := by
    rw [← gather_document site, hAfter]
    intro other hOther
    exact hNodes other (List.mem_append_right _ (List.mem_cons_of_mem _ hOther))
      (site.origin_of_mem_after hOther)
  obtain ⟨hFilter, hFilter'⟩ := filter_origin hBeforeOrigin hOwnOrigin hAfterOrigin
  rw [hFilter, hFilter']
  refine ⟨hOwn, ?_⟩
  exact gather_append_eq_ok.mpr
    ⟨before, after, hBefore', gather_cons_eq_ok.mpr ⟨[], after, rfl, hAfter', rfl⟩, rfl⟩

/-- **Opting out is local.** An operation opts out of a document on which a run completes, and no
other operation asks for the mark by a reference. Then the run still completes, and its findings are
those of before without the findings in that operation. -/
theorem runWith_optOut {document : Entries} {op : Operation} {settings : Settings}
    (hOp : .ok (.operation op) ∈ encounters document)
    (hMark : op.fields.field? excludeKey = none)
    (hNodes : ∀ other, .ok (.operation other) ∈ encounters document → other.origin ≠ op.origin →
      ∀ node ∈ other.nodes, Reference.Avoids excludeKey node)
    (hRun : Completes (runWith document settings)) :
    ∃ is, issues document (severitiesOf settings).active = .ok is ∧
      runWith document settings = .ok (sort (severitiesOf settings) is) ∧
      issuesIn document (severitiesOf settings).active op =
        .ok (is.filter fun i => i.operation.origin = op.origin) ∧
      runWith (optOut document op) settings =
        .ok (sort (severitiesOf settings) (is.filter fun i => i.operation.origin ≠ op.origin)) := by
  obtain ⟨found, hFound⟩ := hRun
  rw [runWith_eq_run] at hFound
  obtain ⟨is, hIs, rfl⟩ := run_eq_ok.mp hFound
  obtain ⟨hOwn, hOthers⟩ := issues_optOut hOp hMark hNodes hIs
  refine ⟨is, hIs, ?_, hOwn, ?_⟩
  · rw [runWith_eq_run]
    exact hFound
  · rw [runWith_eq_run]
    exact run_eq_ok.mpr ⟨_, hOthers, rfl⟩

/-- An operation that answers with an array. -/
def sharedOperation : Operation where
  path := "/pets"
  method := "get"
  fields := [
    (.str "parameters", .list [.map [], .map [(.str "required", .bool true)]]),
    (.str "responses", .map [(.str "200", .map [
      (.str "schema", .map [(.str "type", .str "array")])])])]
  pathIndex := 0
  methodIndex := 0

/-- A document in which another operation points to its answer and its parameters. -/
def sharedDocument : Entries := [
  (.str "paths", .map [
    (.str "/pets", .map [(.str "get", .map sharedOperation.fields)]),
    (.str "/owners", .map [(.str "get", .map [
      (.str "parameters", .list [
        .map [(.str Reference.key, .str "#/paths/~1pets/get/parameters/0")],
        .map [(.str Reference.key, .str "#/paths/~1pets/get/parameters/1")]]),
      (.str "responses", .map [(.str "200", .map [
        (.str "schema", .map [
          (.str Reference.key, .str "#/paths/~1pets/get/responses/200/schema")])])])])])])]

/-- Arrays among the answers are errors and late parameters warnings. -/
def sharedSettings : Settings := .mapping [
  (.str Rule.arrayResponse.key, .str "error"), (.str Rule.parameterOrder.key, .str "warning")]

theorem sharedOperation_mem_encounters :
    .ok (.operation sharedOperation) ∈ encounters sharedDocument := by
  have hEntered : IsEntered "/pets" := by
    decide +kernel
  refine mem_encounters.mpr ⟨0, _, rfl, ?_⟩
  rw [encountersAt_of_item rfl hEntered rfl]
  exact mem_encountersIn.mpr ⟨0, _, rfl, rfl⟩

/-- The other operation keeps its findings, although they are about parts of the one that has opted
out. -/
theorem runWith_optOut_shared :
    ∃ is, issues sharedDocument (severitiesOf sharedSettings).active = .ok is ∧
      sort (severitiesOf sharedSettings) is = ⟨
        [⟨"paths./pets.get.responses.200.schema", Rule.arrayResponse.message⟩,
          ⟨"paths./owners.get.responses.200.schema", Rule.arrayResponse.message⟩],
        [⟨"paths./pets.get.parameters[1]", Rule.parameterOrder.message⟩,
          ⟨"paths./owners.get.parameters[1]", Rule.parameterOrder.message⟩]⟩ ∧
      runWith (optOut sharedDocument sharedOperation) sharedSettings =
        .ok (sort (severitiesOf sharedSettings)
          (is.filter fun i => i.operation.origin ≠ sharedOperation.origin)) ∧
      sort (severitiesOf sharedSettings)
          (is.filter fun i => i.operation.origin ≠ sharedOperation.origin) = ⟨
        [⟨"paths./owners.get.responses.200.schema", Rule.arrayResponse.message⟩],
        [⟨"paths./owners.get.parameters[1]", Rule.parameterOrder.message⟩]⟩ := by
  have hRun : runWith sharedDocument sharedSettings = .ok ⟨
      [⟨"paths./pets.get.responses.200.schema", Rule.arrayResponse.message⟩,
        ⟨"paths./owners.get.responses.200.schema", Rule.arrayResponse.message⟩],
      [⟨"paths./pets.get.parameters[1]", Rule.parameterOrder.message⟩,
        ⟨"paths./owners.get.parameters[1]", Rule.parameterOrder.message⟩]⟩ := by
    decide +kernel
  have hRun' : runWith (optOut sharedDocument sharedOperation) sharedSettings = .ok ⟨
      [⟨"paths./owners.get.responses.200.schema", Rule.arrayResponse.message⟩],
      [⟨"paths./owners.get.parameters[1]", Rule.parameterOrder.message⟩]⟩ := by
    decide +kernel
  have hNodes : ∀ encounter ∈ encounters sharedDocument, ∀ met ∈ encounter.toOption,
      ∀ other ∈ met.operation?, other.origin ≠ sharedOperation.origin →
        ∀ node ∈ other.nodes, Reference.Avoids excludeKey node := by
    decide +kernel
  obtain ⟨is, hIs, hBefore, -, hAfter⟩ := runWith_optOut sharedOperation_mem_encounters rfl
    (fun other hOther => hNodes _ hOther _ rfl other rfl) ⟨_, hRun⟩
  refine ⟨is, hIs, ?_, hAfter, ?_⟩
  · exact Except.ok.inj (hBefore.symm.trans hRun)
  · exact Except.ok.inj (hAfter.symm.trans hRun')

end Lint

end ApiLint
