import ApiLint.Proofs.Completion
import ApiLint.Proofs.Entries

/-!
# Inlining references

A response schema and a parameter may stand in an operation themselves or be referred to there.
Putting what a node stands for in place of the node makes no difference to the two rules that follow
references, because what is no reference stands for itself: a reference that leaves the document
becomes an empty mapping, and one to a place that does not exist becomes null. A node that stands
for another reference is the exception, since the rules would follow the second one as well.

* `Operation.inlined` — an operation with what its nodes stand for in their place;
* `Rule.look_inlined` — a node looks like what it stands for;
* `Rule.check_inlined` — inlining does not change what the two rules find.
-/

namespace ApiLint

open Outcome

-- ---------------------------------------------------------------------------
-- Replacing a field
-- ---------------------------------------------------------------------------

namespace Entries

/-- Changes the value at a text key, if there is one, by a step that can fail. -/
def replace (es : Entries) (name : String) (change : Value → Except Fault Value) :
    Except Fault Entries :=
  match es.field? name with
  | none => .ok es
  | some v => do return es.insert (.str name) (← change v)

variable {es fs : Entries} {name : String} {change : Value → Except Fault Value}

theorem completes_replace :
    Completes (es.replace name change) ↔ ∀ v, es.field? name = some v → Completes (change v) := by
  unfold replace
  cases es.field? name with
  | none => simp
  | some v => simp [bind_pure_comp]

/-- What stands at the key is changed. -/
theorem field?_replace (h : es.replace name change = .ok fs) :
    (es.field? name = none ∧ fs.field? name = none) ∨
      ∃ v w, es.field? name = some v ∧ fs.field? name = some w ∧ change v = .ok w := by
  unfold replace at h
  cases hField : es.field? name with
  | none =>
    rw [hField] at h
    cases h
    exact .inl ⟨rfl, hField⟩
  | some v =>
    rw [hField] at h
    obtain ⟨w, hw, h⟩ := bind_eq_ok.mp h
    cases h
    refine .inr ⟨v, w, rfl, ?_, hw⟩
    rw [field?_insert, if_pos rfl]

/-- Everything else stays. -/
theorem field?_replace_of_ne (h : es.replace name change = .ok fs) {other : String}
    (hOther : name ≠ other) : fs.field? other = es.field? other := by
  unfold replace at h
  split at h
  · cases h
    rfl
  · obtain ⟨w, -, h⟩ := bind_eq_ok.mp h
    cases h
    rw [field?_insert, if_neg hOther]

end Entries

-- ---------------------------------------------------------------------------
-- Inlining
-- ---------------------------------------------------------------------------

/-- An answer with what its schema stands for in place of the schema. -/
def Value.inlineSchema (answer document : Value) : Except Fault Value :=
  match answer with
  | .map fields =>
    .map <$> Entries.replace fields "schema" fun schema => Reference.resolve schema document
  | v => .ok v

/-- Answers with what their schemas stand for in place of the schemas. -/
def Value.inlineSchemas (responses document : Value) : Except Fault Value :=
  match responses with
  | .map answers => .map <$> answers.mapM fun answer => do
      return (answer.1, ← answer.2.inlineSchema document)
  | v => .ok v

/-- A list with what each item stands for in its place. -/
def Value.inlineItems (parameters document : Value) : Except Fault Value :=
  match parameters with
  | .list items => .list <$> items.mapM fun item => Reference.resolve item document
  | v => .ok v

namespace Operation

/-- An operation with what its response schemas and its listed parameters stand for in their
place. -/
def inlined (document : Value) (op : Operation) : Except Fault Operation := do
  let fields ← op.fields.replace "responses" fun responses => responses.inlineSchemas document
  let fields ← fields.replace "parameters" fun parameters => parameters.inlineItems document
  return { op with fields }

/-- The parameters of an operation, if they are a list. -/
def listed (op : Operation) : List Value :=
  match op.fields.field? "parameters" with
  | some (.list items) => items
  | _ => []

/-- The nodes that are replaced when an operation is inlined. -/
def inlinable (op : Operation) : List Value :=
  op.answers.filterMap (fun answer => answer.2.field? "schema") ++ op.listed

theorem schema_mem_inlinable {op : Operation} {answer : Key × Value} (hAnswer : answer ∈ op.answers)
    {schema : Value} (hSchema : answer.2.field? "schema" = some schema) : schema ∈ op.inlinable :=
  List.mem_append_left _ (List.mem_filterMap.mpr ⟨answer, hAnswer, hSchema⟩)

end Operation

/-- Whether a node stands for a value that is no reference. -/
def Reference.Settles (document node : Value) : Prop :=
  ∃ v, resolve node document = .ok v ∧ v.field? key = none

instance (document node : Value) : Decidable (Reference.Settles document node) :=
  match h : Reference.resolve node document with
  | .ok v => decidable_of_iff ((v.field? Reference.key).isNone = true)
      (by simp [Reference.Settles, h])
  | .error _ => isFalse (by simp [Reference.Settles, h])

-- ---------------------------------------------------------------------------
-- Nodes
-- ---------------------------------------------------------------------------

/-- What is no reference stands for itself. -/
theorem Reference.resolve_self {v : Value} (h : v.field? key = none) (document : Value) :
    resolve v document = .ok v := by
  unfold resolve
  rw [h]

/-- What a node stands for, if it is no reference, stands for the same. -/
theorem Reference.Settles.resolve_eq {document node v : Value} (h : Settles document node)
    (hv : resolve node document = .ok v) : resolve v document = resolve node document := by
  obtain ⟨w, hw, hKey⟩ := h
  rw [hv] at hw
  cases hw
  rw [hv, resolve_self hKey]

/-- An answer can be inlined if its schema can be followed. -/
theorem Value.completes_inlineSchema {document answer : Value}
    (h : ∀ schema ∈ answer.field? "schema", Completes (Reference.resolve schema document)) :
    Completes (answer.inlineSchema document) := by
  cases answer with
  | map fields =>
    rw [Value.inlineSchema, completes_map, Entries.completes_replace]
    exact h
  | _ => exact completes_ok _

namespace Rule

/-- A node looks like what it stands for. -/
theorem look_inlined {document node v : Value} (h : Reference.Settles document node)
    (hv : Reference.resolve node document = .ok v) : look document v = look document node := by
  rw [look, look, h.resolve_eq hv]

/-- An answer is an array exactly if it is one with its schema inlined. -/
theorem answersArray_inlined {document answer answer' : Value}
    (hSchema : ∀ schema ∈ answer.field? "schema", Reference.Settles document schema)
    (h : answer.inlineSchema document = .ok answer') :
    answersArray document answer' = answersArray document answer := by
  cases answer with
  | map fields =>
    rw [Value.inlineSchema] at h
    obtain ⟨fields', hFields, h⟩ := bind_eq_ok.mp h
    cases h
    rcases Entries.field?_replace hFields with
      ⟨hBefore, hAfter⟩ | ⟨schema, v, hBefore, hAfter, hResolve⟩
    · have hBefore : (Value.map fields).field? "schema" = none := hBefore
      have hAfter : (Value.map fields').field? "schema" = none := hAfter
      rw [answersArray_of_none hBefore, answersArray_of_none hAfter]
    · have hBefore : (Value.map fields).field? "schema" = some schema := hBefore
      have hAfter : (Value.map fields').field? "schema" = some v := hAfter
      have hSettles := hSchema schema hBefore
      rw [answersArray_eq_look hBefore, answersArray_eq_look hAfter, look_inlined hSettles hResolve]
  | _ =>
    cases h
    rfl

/-- Inlining the schemas of answers does not change which of them are arrays. -/
theorem arrayResponses_inlined {document : Value} {answers answers' : Entries}
    (hSchemas : ∀ answer ∈ answers, ∀ schema ∈ answer.2.field? "schema",
      Reference.Settles document schema)
    (h : List.Forall₂ (fun answer answer' : Key × Value =>
      answer'.1 = answer.1 ∧ answer.2.inlineSchema document = .ok answer'.2) answers answers') :
    arrayResponses document answers' = arrayResponses document answers := by
  rw [arrayResponses_eq_gather, arrayResponses_eq_gather]
  symm
  apply gather_forall₂
  have hBoth := (List.forall₂_and_left answers answers').mpr ⟨hSchemas, h⟩
  refine hBoth.imp ?_
  rintro answer answer' ⟨hSchema, hName, hAnswer⟩
  rw [arrayName, arrayName, answersArray_inlined hSchema hAnswer, hName]

end Rule

namespace Operation

variable {document : Value} {op op' : Operation}

-- ---------------------------------------------------------------------------
-- Inlined operations
-- ---------------------------------------------------------------------------

/-- The two fields of an operation that are changed. -/
theorem inlined_eq_ok (h : op.inlined document = .ok op') :
    ∃ fields, op.fields.replace "responses" (fun v => v.inlineSchemas document) = .ok fields ∧
      fields.replace "parameters" (fun v => v.inlineItems document) = .ok op'.fields ∧
      op' = { op with fields := op'.fields } := by
  rw [inlined] at h
  obtain ⟨fields, hFields, h⟩ := bind_eq_ok.mp h
  obtain ⟨fields', hFields', h⟩ := bind_eq_ok.mp h
  cases h
  exact ⟨fields, hFields, hFields', rfl⟩

/-- An operation can be inlined if everything that is replaced can be followed. -/
theorem completes_inlined (h : ∀ node ∈ op.inlinable, Completes (Reference.resolve node document)) :
    Completes (op.inlined document) := by
  have hResponses :
      Completes (op.fields.replace "responses" fun v => v.inlineSchemas document) := by
    rw [Entries.completes_replace]
    intro v hv
    cases v with
    | map answers =>
      rw [Value.inlineSchemas, completes_map, completes_mapM]
      intro answer hAnswer
      rw [completes_bind_of_forall fun _ => completes_pure _]
      apply Value.completes_inlineSchema
      intro schema hSchema
      exact h schema (schema_mem_inlinable (answers_of_map hv ▸ hAnswer) hSchema)
    | _ => exact completes_ok _
  obtain ⟨fields, hFields⟩ := hResponses
  have hParameters : Completes (fields.replace "parameters" fun v => v.inlineItems document) := by
    rw [Entries.completes_replace]
    intro v hv
    rw [Entries.field?_replace_of_ne hFields (by decide)] at hv
    cases v with
    | list items =>
      rw [Value.inlineItems, completes_map, completes_mapM]
      intro item hItem
      apply h
      rw [inlinable, listed, hv]
      exact List.mem_append_right _ hItem
    | _ => exact completes_ok _
  obtain ⟨fields', hFields'⟩ := hParameters
  rw [inlined, hFields]
  exact ⟨_, bind_eq_ok.mpr ⟨fields, rfl, bind_eq_ok.mpr ⟨fields', hFields', rfl⟩⟩⟩

/-- Inlining keeps the method and everything that leads to a place. -/
theorem place_inlined (h : op.inlined document = .ok op') :
    op'.method = op.method ∧ ∀ fields, op'.place fields = op.place fields := by
  obtain ⟨fields, -, -, hOp⟩ := inlined_eq_ok h
  rw [hOp]
  exact ⟨rfl, fun _ => rfl⟩

/-- The answers of an inlined operation are the answers, one by one with their schemas inlined. -/
theorem answers_inlined (h : op.inlined document = .ok op') :
    List.Forall₂ (fun answer answer' : Key × Value =>
      answer'.1 = answer.1 ∧ answer.2.inlineSchema document = .ok answer'.2)
      op.answers op'.answers := by
  obtain ⟨fields, hResponses, hParameters, -⟩ := inlined_eq_ok h
  have hLater : op'.fields.field? "responses" = fields.field? "responses" :=
    Entries.field?_replace_of_ne hParameters (by decide)
  rw [answers, answers, hLater]
  rcases Entries.field?_replace hResponses with ⟨hBefore, hAfter⟩ | ⟨v, w, hBefore, hAfter, hInline⟩
  · rw [hBefore, hAfter]
    exact .nil
  · rw [hBefore, hAfter]
    cases v with
    | map answers =>
      obtain ⟨answers', hAnswers, rfl⟩ := map_eq_ok.mp hInline
      refine (mapM_eq_ok.mp hAnswers).imp ?_
      intro answer answer' hAnswer
      obtain ⟨response, hResponse, hPair⟩ := bind_eq_ok.mp hAnswer
      cases hPair
      exact ⟨rfl, hResponse⟩
    | _ =>
      cases hInline
      exact .nil

/-- The parameters of an inlined operation look like the parameters, one by one. -/
theorem parameters_inlined
    (hListed : ∀ parameter ∈ op.listed, Reference.Settles document parameter)
    (h : op.inlined document = .ok op') :
    List.Forall₂ (fun p p' => Rule.look document p = Rule.look document p')
      op.parameters op'.parameters := by
  obtain ⟨fields, hResponses, hParameters, -⟩ := inlined_eq_ok h
  have hEarlier : fields.field? "parameters" = op.fields.field? "parameters" :=
    Entries.field?_replace_of_ne hResponses (by decide)
  rw [parameters, parameters, ← hEarlier]
  rw [listed, ← hEarlier] at hListed
  rcases Entries.field?_replace hParameters with
    ⟨hBefore, hAfter⟩ | ⟨v, w, hBefore, hAfter, hInline⟩
  · rw [hBefore, hAfter]
    exact .nil
  · rw [hBefore] at hListed
    rw [hBefore, hAfter]
    cases v with
    | list items =>
      obtain ⟨items', hItems, rfl⟩ := map_eq_ok.mp hInline
      have hBoth := (List.forall₂_and_left items items').mpr ⟨hListed, mapM_eq_ok.mp hItems⟩
      refine hBoth.imp ?_
      rintro item item' ⟨hSettles, hResolve⟩
      exact (Rule.look_inlined hSettles hResolve).symm
    | _ =>
      cases hInline
      exact List.forall₂_same.mpr fun _ _ => rfl

end Operation

namespace Rule

/-- **Inlining references does not change findings.** All response schemas and listed parameters of
an operation stand for values that are no references. Then they can be inlined, and the two rules
that follow references have the same findings in the operation before and after, in the same order
and at the same places. -/
theorem check_inlined {document : Entries} {op : Operation}
    (h : ∀ node ∈ op.inlinable, Reference.Settles (.map document) node) :
    ∃ op', op.inlined (.map document) = .ok op' ∧
      arrayResponse.check document op' = arrayResponse.check document op ∧
      parameterOrder.check document op' = parameterOrder.check document op := by
  have hFollow : ∀ node ∈ op.inlinable, Completes (Reference.resolve node (.map document)) := by
    intro node hNode
    obtain ⟨v, hv, -⟩ := h node hNode
    exact ⟨v, hv⟩
  obtain ⟨op', hInlined⟩ := Operation.completes_inlined hFollow
  obtain ⟨hMethod, hPlace⟩ := Operation.place_inlined hInlined
  have hAnswers : arrayResponses (.map document) op'.answers =
      arrayResponses (.map document) op.answers := by
    refine arrayResponses_inlined ?_ (Operation.answers_inlined hInlined)
    intro answer hAnswer schema hSchema
    exact h schema (Operation.schema_mem_inlinable hAnswer hSchema)
  have hParameters : lateRequired (.map document) false 0 op.parameters =
      lateRequired (.map document) false 0 op'.parameters := by
    refine lateRequired_congr (Operation.parameters_inlined ?_ hInlined) false 0
    intro parameter hParameter
    exact h parameter (List.mem_append_right _ hParameter)
  refine ⟨op', hInlined, ?_, ?_⟩
  · rw [Lint.check_eq_map, Lint.check_eq_map, places_arrayResponse, places_arrayResponse, hMethod,
      hAnswers]
    simp only [hPlace]
  · rw [Lint.check_eq_map, Lint.check_eq_map, places_parameterOrder, places_parameterOrder,
      hParameters]
    simp only [hPlace]

/-- A document with an array and a required parameter to point to. The definition of pets is a
reference itself. -/
def sharedParts : Entries := [
  (.str "definitions", .map [
    (.str "List", .map [(.str "type", .str "array")]),
    (.str "Pets", .map [(.str Reference.key, .str "#/definitions/List")])]),
  (.str "parameters", .list [.map [(.str "required", .bool true)]])]

/-- An operation with answers and parameters of every kind: given inline, by a reference into the
document, by one that leaves it and by one to a place that does not exist. -/
def referringOperation : Operation where
  path := "/pets"
  method := "get"
  fields := [
    (.str "parameters", .list [
      .map [(.str Reference.key, .str "#/parameters/1")],
      .map [(.str Reference.key, .str "pets.yaml#/id")],
      .map [(.str "required", .bool true)],
      .map [(.str Reference.key, .str "#/parameters/0")]]),
    (.str "responses", .map [
      (.str "200", .map [(.str "schema", .map [(.str Reference.key, .str "#/definitions/List")])]),
      (.str "201", .map [(.str "schema", .map [(.str "type", .str "array")])]),
      (.str "202", .map [(.str "schema", .map [(.str Reference.key, .str "pets.yaml")])]),
      (.str "203", .map [(.str "schema", .map [(.str Reference.key, .str "#/definitions/Cat")])]),
      (.str "204", .null),
      (.str "default", .map [(.str "schema", .null)])])]
  pathIndex := 0
  methodIndex := 0

theorem check_inlined_referring :
    (∀ node ∈ referringOperation.inlinable, Reference.Settles (.map sharedParts) node) ∧
      ∃ op', referringOperation.inlined (.map sharedParts) = .ok op' ∧
        arrayResponse.check sharedParts op' = .ok [
          ⟨"paths./pets.get.responses.200.schema", arrayResponse.message⟩,
          ⟨"paths./pets.get.responses.201.schema", arrayResponse.message⟩] ∧
        parameterOrder.check sharedParts op' = .ok [
          ⟨"paths./pets.get.parameters[2]", parameterOrder.message⟩,
          ⟨"paths./pets.get.parameters[3]", parameterOrder.message⟩] := by
  have hSettles : ∀ node ∈ referringOperation.inlinable,
      Reference.Settles (.map sharedParts) node := by
    decide +kernel
  obtain ⟨op', hInlined, hArrays, hOrder⟩ := check_inlined hSettles
  refine ⟨hSettles, op', hInlined, ?_, ?_⟩
  · rw [hArrays]
    decide +kernel
  · rw [hOrder]
    decide +kernel

/-- An answer whose schema stands for another reference. -/
def chainedOperation : Operation where
  path := "/pets"
  method := "get"
  fields := [
    (.str "responses", .map [
      (.str "200", .map [
        (.str "schema", .map [(.str Reference.key, .str "#/definitions/Pets")])])])]
  pathIndex := 0
  methodIndex := 0

/-- Inlining a chain of references brings out what the rules do not see. -/
example : arrayResponse.check sharedParts chainedOperation = .ok [] ∧
    (do arrayResponse.check sharedParts (← chainedOperation.inlined (.map sharedParts))) =
      .ok [⟨"paths./pets.get.responses.200.schema", arrayResponse.message⟩] := by
  decide +kernel

end Rule

end ApiLint
