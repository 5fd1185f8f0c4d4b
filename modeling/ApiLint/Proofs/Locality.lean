import ApiLint.Proofs.Escaping
import ApiLint.Proofs.Sight
import ApiLint.Proofs.Violations
import ApiLint.Proofs.Walk

/-!
# Locality

What a run reports on an operation depends on the operation and on little else: two defaults of the
document root, and the values of the root that the references of the operation start at. Everything
else at the root may differ, and the operations of a document may be taken apart into two documents.

* `Agree` — a document shows the operations of another one what that one shows them;
* `Agree.gather_eq` — they then have the same violations in both;
* `runWith_split` — a run on two halves of `paths` is the run on one half and then on the other.
-/

namespace ApiLint

open Outcome

namespace Pointer

/-- A lookup depends on the value that it starts at only by its first step. -/
theorem lookup_congr {v w : Value} {segment : String} (h : step v segment = step w segment)
    (rest : List String) : lookup v (segment :: rest) = lookup w (segment :: rest) := by
  rw [lookup, lookup, walk, walk, h]

end Pointer

namespace Operation

/-- The segments at which the references of an operation start: the first segment of every pointer
into the document that stands at a node which a rule follows. -/
def starts (op : Operation) : List String :=
  op.followed.filterMap fun node =>
    (Reference.pointer? node).bind fun pointer => (Pointer.segments pointer).head?

theorem mem_starts {op : Operation} {node : Value} (hNode : node ∈ op.followed)
    {pointer segment : String} (hPointer : Reference.pointer? node = some pointer)
    (hSegment : (Pointer.segments pointer).head? = some segment) : segment ∈ op.starts := by
  refine List.mem_filterMap.mpr ⟨node, hNode, ?_⟩
  rw [hPointer, Option.bind_some, hSegment]

end Operation

namespace Lint

open Operation

-- ---------------------------------------------------------------------------
-- Agreement
-- ---------------------------------------------------------------------------

/-- Whether a document shows the operations of another one what that one shows them: both have the
same defaults, and a segment at which a reference of an operation starts selects the same value of
the root in both, or none. -/
structure Agree (document part : Entries) : Prop where
  consumes : Rule.isDeclared document "consumes" = Rule.isDeclared part "consumes"
  produces : Rule.isDeclared document "produces" = Rule.isDeclared part "produces"
  roots : ∀ op, .ok (.operation op) ∈ encounters part → ∀ segment ∈ op.starts,
    Pointer.step (.map document) segment = Pointer.step (.map part) segment

namespace Agree

variable {document part : Entries} (h : Agree document part)

include h

theorem look_eq {op : Operation} (hOp : .ok (.operation op) ∈ encounters part) {node : Value}
    (hNode : node ∈ op.followed) :
    Rule.look (.map document) node = Rule.look (.map part) node := by
  rw [Rule.look, Rule.look]
  cases hPointer : Reference.pointer? node with
  | none =>
    obtain ⟨v, hv⟩ := Reference.resolve_of_no_pointer hPointer
    rw [hv, hv]
  | some pointer =>
    obtain ⟨segment, rest, hSegments⟩ :=
      List.exists_cons_of_ne_nil (Pointer.segments_ne_nil pointer)
    have hStart : segment ∈ op.starts := by
      apply mem_starts hNode hPointer
      rw [hSegments]
      rfl
    have hFirst := h.roots op hOp segment hStart
    rw [Reference.resolve_of_pointer hPointer, Reference.resolve_of_pointer hPointer, hSegments,
      Pointer.lookup_congr hFirst]

/-- An operation of the other document has the same violations in both. -/
theorem violationsIn_eq {op : Operation} (hOp : .ok (.operation op) ∈ encounters part)
    (rules : List Rule) : violationsIn document rules op = violationsIn part rules op := by
  apply gather_congr
  intro rule _
  have hPlaces : rule.places document op = rule.places part op :=
    Rule.places_congr h.consumes h.produces (fun node hNode => h.look_eq hOp hNode) rule
  rw [violationsOf, violationsOf, hPlaces]

theorem violationsAt_eq {path : String} {entry entry' : Key × Value} {i j : Nat}
    (hEntry : (pathEntries part)[i]? = some entry) (hText : entry.1.text = .ok path)
    (hEntry' : (itemAt path entry.2)[j]? = some entry') (rules : List Rule) :
    violationsAt document rules path entry' = violationsAt part rules path entry' := by
  cases hMethod : entry'.1.text with
  | error fault => rw [violationsAt_of_error hMethod, violationsAt_of_error hMethod]
  | ok method =>
    rw [violationsAt_of_text hMethod, violationsAt_of_text hMethod]
    cases hFields : fieldsAt? method entry'.2 with
    | none => rfl
    | some fields =>
      have hOp : .ok (.operation ⟨path, method, fields, i, j⟩) ∈ encounters part := by
        refine mem_encounters.mpr ⟨i, entry, hEntry, ?_⟩
        exact operation_mem_encountersAt_of_itemAt hText hEntry'
          (encounterAt_of_fieldsAt hMethod hFields i j)
      -- the operation is looked at without its position, which makes no difference
      rw [Option.elim_some, Option.elim_some,
        ← violationsIn_position document rules ⟨path, method, fields, 0, 0⟩ i j,
        ← violationsIn_position part rules ⟨path, method, fields, 0, 0⟩ i j]
      exact h.violationsIn_eq hOp rules

theorem violationsUnder_eq {entry : Key × Value} (hEntry : entry ∈ pathEntries part)
    (rules : List Rule) :
    violationsUnder document rules entry = violationsUnder part rules entry := by
  obtain ⟨i, hEntry⟩ := List.getElem?_of_mem hEntry
  cases hText : entry.1.text with
  | error fault => rw [violationsUnder_of_error hText, violationsUnder_of_error hText]
  | ok path =>
    rw [violationsUnder_of_text hText, violationsUnder_of_text hText]
    apply gather_congr
    intro entry' hEntry'
    obtain ⟨j, hEntry'⟩ := List.getElem?_of_mem hEntry'
    exact h.violationsAt_eq hEntry hText hEntry' rules

/-- The entries of the other document have the same violations in both. -/
theorem gather_eq (rules : List Rule) :
    gather (violationsUnder document rules) (pathEntries part) = violations part rules :=
  gather_congr fun _ hEntry => h.violationsUnder_eq hEntry rules

end Agree

-- ---------------------------------------------------------------------------
-- Splitting
-- ---------------------------------------------------------------------------

theorem pathEntries_of_paths {document es : Entries}
    (h : document.field? "paths" = some (.map es)) : pathEntries document = es := by
  rw [pathEntries, h]

theorem route_append_bind (severities : Severities) (x y : Except Fault (List Violation)) :
    (route severities <$> do
      let vs ← x
      let ws ← y
      return vs ++ ws) = do
      let a ← route severities <$> x
      let b ← route severities <$> y
      return ⟨a.errors ++ b.errors, a.warnings ++ b.warnings⟩ := by
  cases x with
  | error fault => rfl
  | ok vs =>
    cases y with
    | error fault => rfl
    | ok ws => exact congrArg Except.ok (route_append severities vs ws)

/-- **Splitting.** The entries of `paths` are taken apart into two documents which agree with the
whole one. Then a run on the whole document is a run on the first and a run on the second one: it
completes exactly if both do, and its findings are those of the first and then those of the second.
With nothing in the second half, the rest of the root makes no difference at all. -/
theorem runWith_split {document front back : Entries} {es fs : Entries}
    (hPaths : document.field? "paths" = some (.map (es ++ fs)))
    (hFront : front.field? "paths" = some (.map es))
    (hBack : back.field? "paths" = some (.map fs))
    (hAgreeFront : Agree document front) (hAgreeBack : Agree document back) (settings : Settings) :
    (runWith document settings = do
      let a ← runWith front settings
      let b ← runWith back settings
      return ⟨a.errors ++ b.errors, a.warnings ++ b.warnings⟩) ∧
    (fs = [] → runWith document settings = runWith front settings) := by
  have hDocument : ∀ rules, violations document rules = do
      let vs ← violations front rules
      let ws ← violations back rules
      return vs ++ ws := by
    intro rules
    rw [← hAgreeFront.gather_eq, ← hAgreeBack.gather_eq, violations, pathEntries_of_paths hPaths,
      pathEntries_of_paths hFront, pathEntries_of_paths hBack, gather_append]
  have hSplit : runWith document settings = do
      let a ← runWith front settings
      let b ← runWith back settings
      return ⟨a.errors ++ b.errors, a.warnings ++ b.warnings⟩ := by
    rw [runWith_eq_run, runWith_eq_run, runWith_eq_run, run_eq_route, run_eq_route, run_eq_route,
      hDocument, route_append_bind]
  refine ⟨hSplit, ?_⟩
  rintro rfl
  rw [runWith_eq_run, runWith_eq_run, run_eq_route, run_eq_route, hDocument]
  have hNothing : violations back (severitiesOf settings).active = .ok [] := by
    rw [violations, pathEntries_of_paths hBack]
    rfl
  rw [hNothing]
  cases violations front (severitiesOf settings).active with
  | error fault => rfl
  | ok vs =>
    show Except.ok (route _ (vs ++ [])) = _
    rw [List.append_nil]
    rfl

/-- A path whose answer is described elsewhere in the document. -/
def petsPath : Key × Value :=
  (.str "/pets", .map [
    (.str "get", .map [
      (.str "responses", .map [
        (.int 200, .map [
          (.str "schema", .map [(.str Reference.key, .str "#/definitions/Pets")])])])])])

/-- A path with one parameter that is described nowhere and two that are described elsewhere. -/
def ownersPath : Key × Value :=
  (.str "/owners", .map [
    (.str "post", .map [
      (.str "parameters", .list [
        .map [(.str Reference.key, .str "#/missing/0")],
        .map [(.str Reference.key, .str "#/7/page")],
        .map [(.str Reference.key, .str "#/7/owner")]])])])

/-- An array. -/
def petsDefinition : Key × Value :=
  (.str "definitions", .map [(.str "Pets", .map [(.str "type", .str "array")])])

/-- An optional and a required parameter, under a number. -/
def sevenDefinition : Key × Value :=
  (.int 7, .map [(.str "page", .map []), (.str "owner", .map [(.str "required", .bool true)])])

/-- A document of both paths. -/
def wholeDocument : Entries := [
  (.str "produces", .list [.str "application/json"]), petsDefinition, sevenDefinition,
  (.str "info", .map []), (.str "paths", .map [petsPath, ownersPath])]

/-- A document of the first path. What the second one needs is not there. -/
def petsDocument : Entries := [
  (.str "paths", .map [petsPath]), petsDefinition, (.str "produces", .map [])]

/-- A document of the second path. What the first one needs is something else there. -/
def ownersDocument : Entries := [
  (.str "definitions", .null), (.str "produces", .int 1), (.str "paths", .map [ownersPath]),
  sevenDefinition]

theorem wholeDocument_agrees_pets : Agree wholeDocument petsDocument := by
  have hStarts : ∀ encounter ∈ encounters petsDocument, ∀ met ∈ encounter.toOption,
      ∀ op ∈ met.operation?, ∀ segment ∈ op.starts, segment = "definitions" := by
    decide +kernel
  refine ⟨rfl, rfl, ?_⟩
  intro op hOp segment hSegment
  rw [hStarts _ hOp _ rfl op rfl segment hSegment]
  rfl

theorem wholeDocument_agrees_owners : Agree wholeDocument ownersDocument := by
  have hStarts : ∀ encounter ∈ encounters ownersDocument, ∀ met ∈ encounter.toOption,
      ∀ op ∈ met.operation?, ∀ segment ∈ op.starts, segment = "missing" ∨ segment = "7" := by
    decide +kernel
  refine ⟨rfl, rfl, ?_⟩
  intro op hOp segment hSegment
  rcases hStarts _ hOp _ rfl op rfl segment hSegment with rfl | rfl
  · rfl
  · rfl

/-- What is found in the first path. -/
def petsFindings : Findings where
  errors := [⟨"paths./pets.get.responses.200.schema", Rule.arrayResponse.message⟩]
  warnings := [
    ⟨"paths./pets.get.operationId", Rule.operationId.message⟩,
    ⟨"paths./pets.get.summary", Rule.summary.message⟩]

/-- What is found in the second path. -/
def ownersFindings : Findings where
  errors := [⟨"paths./owners.post.consumes", Rule.writeConsumes.message⟩]
  warnings := [
    ⟨"paths./owners.post.operationId", Rule.operationId.message⟩,
    ⟨"paths./owners.post.summary", Rule.summary.message⟩,
    ⟨"paths./owners.post.parameters[2]", Rule.parameterOrder.message⟩]

theorem runWith_split_references :
    runWith petsDocument (.model .default) = .ok petsFindings ∧
      runWith ownersDocument (.model .default) = .ok ownersFindings ∧
      runWith wholeDocument (.model .default) = .ok ⟨petsFindings.errors ++ ownersFindings.errors,
        petsFindings.warnings ++ ownersFindings.warnings⟩ := by
  have hPets : runWith petsDocument (.model .default) = .ok petsFindings := by
    decide +kernel
  have hOwners : runWith ownersDocument (.model .default) = .ok ownersFindings := by
    decide +kernel
  have hPaths : wholeDocument.field? "paths" = some (.map ([petsPath] ++ [ownersPath])) := rfl
  have hFront : petsDocument.field? "paths" = some (.map [petsPath]) := rfl
  have hBack : ownersDocument.field? "paths" = some (.map [ownersPath]) := rfl
  obtain ⟨hSplit, -⟩ := runWith_split hPaths hFront hBack wholeDocument_agrees_pets
    wholeDocument_agrees_owners (.model .default)
  rw [hPets, hOwners] at hSplit
  exact ⟨hPets, hOwners, hSplit⟩

end Lint

end ApiLint
