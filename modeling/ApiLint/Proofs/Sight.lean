import ApiLint.Proofs.Outcome
import ApiLint.Rule.Check
import Mathlib.Data.List.Forall2

/-!
# What rules see

A rule looks at the operation that it is applied to, at two defaults of the document root and at the
values that the nodes of the operation stand for. Of such a value it sees no more than its
`Appearance`.

* `Operation.nodes` — the response schemas and parameters of an operation, and `Operation.followed`
  those that a rule follows;
* `Rule.places_congr` — documents that look alike to an operation get the same places.
-/

namespace ApiLint

open Outcome

namespace Operation

/-- The answers of an operation by their names. -/
def answers (op : Operation) : Entries :=
  match op.fields.field? "responses" with
  | some (.map responses) => responses
  | _ => []

theorem answers_of_map {op : Operation} {responses : Entries}
    (h : op.fields.field? "responses" = some (.map responses)) : op.answers = responses := by
  rw [answers, h]

theorem answers_of_no_map {op : Operation}
    (h : ∀ responses, op.fields.field? "responses" ≠ some (.map responses)) : op.answers = [] := by
  unfold answers
  split
  · next responses hResponses => exact absurd hResponses (h responses)
  · rfl

/-- The parameters of an operation. -/
def parameters (op : Operation) : List Value :=
  ((op.fields.field? "parameters").bind Value.items?).getD []

/-- The values in an operation that may be references: response schemas and parameters. -/
def nodes (op : Operation) : List Value :=
  op.answers.filterMap (fun answer => answer.2.field? "schema") ++ op.parameters

/-- The values in an operation that rules follow: of a GET operation all its nodes, of any other one
only the parameters. -/
def followed (op : Operation) : List Value :=
  if op.method = "get" then op.nodes else op.parameters

theorem schema_mem_nodes {op : Operation} {answer : Key × Value} (hAnswer : answer ∈ op.answers)
    {schema : Value} (hSchema : answer.2.field? "schema" = some schema) : schema ∈ op.nodes :=
  List.mem_append_left _ (List.mem_filterMap.mpr ⟨answer, hAnswer, hSchema⟩)

theorem parameter_mem_followed {op : Operation} {parameter : Value}
    (h : parameter ∈ op.parameters) : parameter ∈ op.followed := by
  unfold followed
  split
  · exact List.mem_append_right _ h
  · exact h

theorem mem_nodes_of_followed {op : Operation} {node : Value} (h : node ∈ op.followed) :
    node ∈ op.nodes := by
  unfold followed at h
  split at h
  · exact h
  · exact List.mem_append_right _ h

end Operation

/-- What a rule sees of the value that a node stands for. -/
structure Appearance where
  isNull : Bool
  isArray : Bool
  isRequired : Bool

namespace Rule

/-- How a value appears to rules. -/
def appearance (v : Value) : Appearance where
  isNull := match v with
    | .null => true
    | _ => false
  isArray := isArraySchema v
  isRequired := isRequired v

/-- How the value that a node stands for appears to rules. -/
def look (document node : Value) : Except Fault Appearance :=
  appearance <$> Reference.resolve node document

-- ---------------------------------------------------------------------------
-- Answers
-- ---------------------------------------------------------------------------

/-- A missing schema needs no case of its own: null is no reference and describes no array. -/
theorem answersArray_of_schema {response schema : Value}
    (h : response.field? "schema" = some schema) (document : Value) :
    answersArray document response = isArraySchema <$> Reference.resolve schema document := by
  unfold answersArray
  rw [h]
  split
  · next hNone => cases hNone
  · next hNull =>
    cases hNull
    rfl
  · next hSome =>
    cases hSome
    rfl

theorem answersArray_of_none {response : Value} (h : response.field? "schema" = none)
    (document : Value) : answersArray document response = .ok false := by
  unfold answersArray
  rw [h]

theorem answersArray_eq_look {response schema : Value}
    (h : response.field? "schema" = some schema) (document : Value) :
    answersArray document response = Appearance.isArray <$> look document schema := by
  rw [answersArray_of_schema h, look]
  cases Reference.resolve schema document <;> rfl

/-- The name of an answer, if it is an array. -/
def arrayName (document : Value) (answer : Key × Value) : Except Fault (List String) := do
  if ← answersArray document answer.2 then return [← answer.1.text] else return []

theorem arrayResponses_eq_gather (document : Value) (responses : Entries) :
    arrayResponses document responses = gather (arrayName document) responses := by
  induction responses with
  | nil => rfl
  | cons answer rest ih =>
    obtain ⟨name, response⟩ := answer
    rw [arrayResponses, gather_cons, ← ih, arrayName]
    dsimp only
    cases answersArray document response with
    | error fault => rfl
    | ok isArray =>
      cases isArray with
      | false => exact (bind_pure (arrayResponses document rest)).symm
      | true => cases name.text <;> rfl

theorem answersArray_congr {document document' response : Value}
    (h : ∀ schema, response.field? "schema" = some schema →
      look document schema = look document' schema) :
    answersArray document response = answersArray document' response := by
  cases hSchema : response.field? "schema" with
  | none => rw [answersArray_of_none hSchema, answersArray_of_none hSchema]
  | some schema =>
    rw [answersArray_eq_look hSchema, answersArray_eq_look hSchema, h schema hSchema]

theorem arrayResponses_congr {document document' : Value} {responses : Entries}
    (h : ∀ answer ∈ responses, ∀ schema, answer.2.field? "schema" = some schema →
      look document schema = look document' schema) :
    arrayResponses document responses = arrayResponses document' responses := by
  rw [arrayResponses_eq_gather, arrayResponses_eq_gather]
  apply gather_congr
  intro answer hAnswer
  rw [arrayName, arrayName, answersArray_congr (h answer hAnswer)]

-- ---------------------------------------------------------------------------
-- Parameters
-- ---------------------------------------------------------------------------

theorem lateRequired_cons (document : Value) (seen : Bool) (index : Nat) (raw : Value)
    (rest : List Value) :
    lateRequired document seen index (raw :: rest) = (do
      let parameter ← look document raw
      if parameter.isNull then lateRequired document seen (index + 1) rest
      else if parameter.isRequired then
        let later ← lateRequired document seen (index + 1) rest
        return if seen then index :: later else later
      else lateRequired document true (index + 1) rest) := by
  rw [lateRequired, look]
  cases Reference.resolve raw document with
  | error fault => rfl
  | ok parameter =>
    -- both sides split on whether the parameter is null, each in its own way
    cases parameter with
    | scalar s => cases s <;> rfl
    | list items => rfl
    | tuple items => rfl
    | set items => rfl
    | map entries => rfl

theorem lateRequired_congr {document document' : Value} {parameters parameters' : List Value}
    (h : List.Forall₂ (fun p p' => look document p = look document' p') parameters parameters')
    (seen : Bool) (index : Nat) :
    lateRequired document seen index parameters =
      lateRequired document' seen index parameters' := by
  induction h generalizing seen index with
  | nil => rfl
  | cons hHead _ ih =>
    rw [lateRequired_cons, lateRequired_cons, hHead]
    simp only [ih]

-- ---------------------------------------------------------------------------
-- Rules
-- ---------------------------------------------------------------------------

theorem places_arrayResponse (document : Entries) (op : Operation) :
    arrayResponse.places document op =
      if op.method ≠ "get" then .ok []
      else List.map (fun name => op.place ["responses", name, "schema"]) <$>
        arrayResponses (.map document) op.answers := by
  simp only [places]
  apply if_congr Iff.rfl rfl
  split
  · next responses hResponses =>
    rw [Operation.answers_of_map hResponses]
    exact bind_pure_comp _ (arrayResponses (.map document) responses)
  · next hOther =>
    rw [Operation.answers_of_no_map hOther]
    rfl

theorem places_parameterOrder (document : Entries) (op : Operation) :
    parameterOrder.places document op =
      List.map (fun i => op.place ["parameters"] ++ "[" ++ Decimal.ofNat i ++ "]") <$>
        lateRequired (.map document) false 0 op.parameters := by
  rw [Operation.parameters]
  simp only [places]
  cases (op.fields.field? "parameters").bind Value.items? with
  | none => rfl
  | some parameters => exact bind_pure_comp _ _

/-- Documents with the same defaults in which the nodes that rules follow look alike have the same
places in an operation. -/
theorem places_congr {document document' : Entries} {op : Operation}
    (hConsumes : isDeclared document "consumes" = isDeclared document' "consumes")
    (hProduces : isDeclared document "produces" = isDeclared document' "produces")
    (hNodes : ∀ node ∈ op.followed, look (.map document) node = look (.map document') node)
    (rule : Rule) : rule.places document op = rule.places document' op := by
  cases rule with
  | writeConsumes => simp only [places, isMissing, hConsumes]
  | readConsumes => rfl
  | produces => simp only [places, isMissing, hProduces]
  | operationId => rfl
  | summary => rfl
  | arrayResponse =>
    rw [places_arrayResponse, places_arrayResponse]
    by_cases hMethod : op.method = "get"
    · rw [Operation.followed, if_pos hMethod] at hNodes
      rw [arrayResponses_congr]
      intro answer hAnswer schema hSchema
      exact hNodes schema (Operation.schema_mem_nodes hAnswer hSchema)
    · rw [if_pos hMethod, if_pos hMethod]
  | parameterOrder =>
    rw [places_parameterOrder, places_parameterOrder, lateRequired_congr]
    rw [List.forall₂_same]
    intro parameter hParameter
    exact hNodes parameter (Operation.parameter_mem_followed hParameter)

end Rule

end ApiLint
