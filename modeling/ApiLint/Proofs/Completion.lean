import ApiLint.Proofs.Escaping
import ApiLint.Proofs.Issues
import ApiLint.Proofs.Passage
import ApiLint.Proofs.Sight
import ApiLint.Proofs.Walk

/-!
# Which runs complete

Nothing in a document makes a run fail but numbers that are too long: an integer that has to be
written, or a segment of a pointer that has to be read.

* `Rule.completes_places` — a rule can be applied to an operation exactly if what it writes is
  writable and the references that it follows reach no segment with too many digits;
* `Lint.completes_runWith` — a run completes exactly if the keys that it passes can be written and
  every rule that is not off can be applied to every operation;
* `Lint.runWith_fails` — there is a run that does not complete.
-/

namespace ApiLint

open Outcome

-- ---------------------------------------------------------------------------
-- What a rule needs
-- ---------------------------------------------------------------------------

/-- Whether a field of an operation, if it is there, can be written. -/
def Operation.FieldWritable (op : Operation) (name : String) : Prop :=
  ∀ v, op.fields.field? name = some v → v.Writable

/-- Whether a node can be followed by one hop: if it is a reference into the document, its pointer
reaches no segment with too many digits. -/
def Reference.Followable (document : Entries) (node : Value) : Prop :=
  ∀ pointer, pointer? node = some pointer →
    Pointer.Convertible (.map document) (Pointer.segments pointer)

namespace Rule

/-- Whether an answer can be judged: its schema can be followed, and its name can be written if it
has to be because the schema describes an array. -/
def AnswerReadable (document : Entries) (answer : Key × Value) : Prop :=
  ∀ schema, answer.2.field? "schema" = some schema →
    Reference.Followable document schema ∧
      ∀ v, Reference.resolve schema (.map document) = .ok v → isArraySchema v = true →
        answer.1.Writable

/-- Whether a rule can be applied to an operation. -/
def Applicable (document : Entries) (op : Operation) : Rule → Prop
  | .writeConsumes => op.method = "put" ∨ op.method = "post" → op.FieldWritable "consumes"
  | .readConsumes => True
  | .produces => op.method ≠ "head" → op.FieldWritable "produces"
  | .operationId => op.FieldWritable "operationId"
  | .summary => op.FieldWritable "summary"
  | .arrayResponse => op.method = "get" → ∀ answer ∈ op.answers, AnswerReadable document answer
  | .parameterOrder => ∀ parameter ∈ op.parameters, Reference.Followable document parameter

theorem completes_ofField {op : Operation} {name : String} :
    Completes (Presence.ofField op.fields name) ↔ op.FieldWritable name := by
  rw [Presence.ofField, Presence.completes_of, Operation.FieldWritable]
  cases op.fields.field? name with
  | none =>
    refine ⟨?_, fun _ => Decimal.allShort_nil⟩
    intro _ v h
    cases h
  | some v =>
    constructor
    · intro h v' hv'
      cases hv'
      exact h
    · intro h
      exact h v rfl

theorem completes_isMissing {document : Entries} {op : Operation} {name : String} :
    Completes (isMissing document op name) ↔ op.FieldWritable name := by
  rw [isMissing, bind_pure_comp, completes_map, completes_ofField]

/-- A node can be looked at exactly if it can be followed. -/
theorem completes_look {document : Entries} {node : Value} :
    Completes (look (.map document) node) ↔ Reference.Followable document node := by
  rw [look, completes_map]
  exact Reference.completes_resolve

/-- An answer can be judged exactly if it is known whether it is an array and its name can be
written if it is. -/
theorem answerReadable_iff {document : Entries} {answer : Key × Value} :
    AnswerReadable document answer ↔
      Completes (answersArray (.map document) answer.2) ∧
        (answersArray (.map document) answer.2 = .ok true → answer.1.Writable) := by
  cases hSchema : answer.2.field? "schema" with
  | none =>
    rw [answersArray_of_none hSchema]
    constructor
    · intro _
      refine ⟨completes_ok false, ?_⟩
      intro hArray
      cases hArray
    · intro _ schema hSchema'
      rw [hSchema] at hSchema'
      cases hSchema'
  | some schema =>
    rw [answersArray_of_schema hSchema, completes_map, map_eq_ok, Reference.completes_resolve]
    constructor
    · intro h
      obtain ⟨hFollowable, hName⟩ := h schema hSchema
      refine ⟨hFollowable, ?_⟩
      rintro ⟨v, hResolve, hArray⟩
      exact hName v hResolve hArray
    · rintro ⟨hFollowable, hName⟩ schema' hSchema'
      rw [hSchema] at hSchema'
      cases hSchema'
      refine ⟨hFollowable, ?_⟩
      intro v hResolve hArray
      exact hName ⟨v, hResolve, hArray⟩

theorem completes_arrayResponses {document responses : Entries} :
    Completes (arrayResponses (.map document) responses) ↔
      ∀ answer ∈ responses, AnswerReadable document answer := by
  induction responses with
  | nil =>
    refine ⟨?_, fun _ => completes_ok _⟩
    intro _ answer h
    cases h
  | cons answer rest ih =>
    obtain ⟨name, response⟩ := answer
    rw [List.forall_mem_cons, ← ih, answerReadable_iff, arrayResponses]
    dsimp only
    cases answersArray (.map document) response with
    | error fault =>
      exact ⟨fun h => absurd h (not_completes_error fault),
        fun h => absurd h.1.1 (not_completes_error fault)⟩
    | ok isArray =>
      cases isArray with
      | false =>
        constructor
        · intro hRest
          refine ⟨⟨completes_ok false, ?_⟩, hRest⟩
          intro hArray
          cases hArray
        · exact fun h => h.2
      | true =>
        have hBoth : Completes (do
            let text ← name.text
            let names ← arrayResponses (.map document) rest
            return text :: names) ↔
            name.Writable ∧ Completes (arrayResponses (.map document) rest) := by
          rw [completes_both, name.completes_text]
        constructor
        · intro h
          obtain ⟨hName, hRest⟩ := hBoth.mp h
          exact ⟨⟨completes_ok true, fun _ => hName⟩, hRest⟩
        · rintro ⟨⟨-, hName⟩, hRest⟩
          exact hBoth.mpr ⟨hName rfl, hRest⟩

/-- Looking for late parameters follows every parameter, whatever came before. -/
theorem completes_lateRequired {document : Entries} {parameters : List Value} (seen : Bool)
    (index : Nat) :
    Completes (lateRequired (.map document) seen index parameters) ↔
      ∀ parameter ∈ parameters, Reference.Followable document parameter := by
  induction parameters generalizing seen index with
  | nil =>
    refine ⟨?_, fun _ => completes_ok _⟩
    intro _ parameter h
    cases h
  | cons raw rest ih =>
    have hRest (parameter : Appearance) : Completes (do
        if parameter.isNull then lateRequired (.map document) seen (index + 1) rest
        else if parameter.isRequired then
          let later ← lateRequired (.map document) seen (index + 1) rest
          return if seen then index :: later else later
        else lateRequired (.map document) true (index + 1) rest) ↔
        ∀ parameter ∈ rest, Reference.Followable document parameter := by
      split
      · exact ih seen (index + 1)
      · split
        · rw [bind_pure_comp, completes_map]
          exact ih seen (index + 1)
        · exact ih true (index + 1)
    rw [List.forall_mem_cons, ← completes_look, lateRequired_cons, completes_bind]
    constructor
    · rintro ⟨parameter, hLook, h⟩
      exact ⟨⟨parameter, hLook⟩, (hRest parameter).mp h⟩
    · rintro ⟨⟨parameter, hLook⟩, h⟩
      exact ⟨parameter, hLook, (hRest parameter).mpr h⟩

/-- A rule that asks for the content of a field has to write the field and nothing else. -/
theorem completes_unless_present {op : Operation} {name : String} {places : List String} :
    Completes (do
      if (← Presence.ofField op.fields name) = .nonEmpty then return []
      return places : Except Fault (List String)) ↔ op.FieldWritable name := by
  rw [completes_bind_of_forall, completes_ofField]
  intro presence
  split
  · exact completes_pure _
  · exact completes_pure _

/-- A rule can be applied exactly if what it writes can be written and what it follows can be
followed. -/
theorem completes_places {rule : Rule} {document : Entries} {op : Operation} :
    Completes (rule.places document op) ↔ rule.Applicable document op := by
  cases rule with
  | writeConsumes =>
    simp only [places, Applicable]
    rw [completes_ite_pure, bind_pure_comp, completes_map, completes_isMissing,
      Decidable.not_and_iff_not_or_not, Decidable.not_not, Decidable.not_not]
  | readConsumes =>
    simp only [places, Applicable]
    rw [completes_ite_pure, iff_true]
    intro _
    split
    · exact completes_pure _
    · exact completes_pure _
    · exact completes_pure _
  | produces =>
    simp only [places, Applicable]
    rw [completes_ite_pure, bind_pure_comp, completes_map, completes_isMissing]
  | operationId => exact completes_unless_present
  | summary => exact completes_unless_present
  | arrayResponse =>
    rw [places_arrayResponse]
    show Completes (if op.method ≠ "get" then pure [] else _) ↔ _
    rw [completes_ite_pure, completes_map, completes_arrayResponses, Decidable.not_not]
    rfl
  | parameterOrder =>
    rw [places_parameterOrder, completes_map, completes_lateRequired]
    rfl

end Rule

-- ---------------------------------------------------------------------------
-- What a run needs
-- ---------------------------------------------------------------------------

namespace Lint

/-- Whether rules can be applied throughout a document: the keys that the passage writes are
writable, and every rule can be applied to every operation. -/
structure Convertible (document : Entries) (rules : List Rule) : Prop where
  keys : ∀ entry ∈ Operation.pathEntries document, Operation.KeysWritable entry
  rules : ∀ op, .ok (.operation op) ∈ Operation.encounters document →
    ∀ rule ∈ rules, rule.Applicable document op

theorem completes_issuesIn {document : Entries} {rules : List Rule} {op : Operation} :
    Completes (issuesIn document rules op) ↔ ∀ rule ∈ rules, rule.Applicable document op := by
  rw [issuesIn_eq_gather, completes_gather]
  simp only [issuesOf_eq_map, completes_map, Rule.completes_places]

theorem completes_issuesAt {document : Entries} {rules : List Rule}
    {encounter : Except Fault Encounter} :
    Completes (issuesAt document rules encounter) ↔
      Completes encounter ∧ ∀ op, encounter = .ok (.operation op) →
        ∀ rule ∈ rules, rule.Applicable document op := by
  cases encounter with
  | error fault =>
    exact ⟨fun h => absurd h (not_completes_error fault),
      fun h => absurd h.1 (not_completes_error fault)⟩
  | ok met =>
    cases met with
    | operation op =>
      show Completes (issuesIn document rules op) ↔ _
      rw [completes_issuesIn]
      constructor
      · intro h
        refine ⟨completes_ok _, ?_⟩
        intro op' hOp
        cases hOp
        exact h
      · rintro ⟨-, h⟩
        exact h op rfl
    | _ =>
      refine ⟨fun _ => ⟨completes_ok _, ?_⟩, fun _ => completes_ok []⟩
      intro op hOp
      cases hOp

theorem completes_issues {document : Entries} {rules : List Rule} :
    Completes (issues document rules) ↔ Convertible document rules := by
  rw [issues_eq_gather, completes_gather]
  simp only [completes_issuesAt]
  constructor
  · intro h
    refine ⟨Operation.completes_encounters.mp fun e he => (h e he).1, ?_⟩
    intro op hOp
    exact (h _ hOp).2 op rfl
  · intro h e he
    refine ⟨Operation.completes_encounters.mpr h.keys e he, ?_⟩
    rintro op rfl
    exact h.rules op he

theorem completes_run {document : Entries} {severities : Severities} :
    Completes (run document severities) ↔ Convertible document severities.active := by
  rw [run_eq_sort, completes_map, completes_issues]

/-- **Completion.** A run completes exactly if the keys on the way can be written and every rule
that is not off can be applied to every operation. Content that is malformed in any other way does
not stop it. -/
theorem completes_runWith (document : Entries) (settings : Settings) :
    Completes (runWith document settings) ↔
      Convertible document (severitiesOf settings).active := by
  rw [runWith_eq_run, completes_run]

/-- A segment of one digit more than is converted. -/
def longSegment : String := String.ofList (List.replicate (Fault.digitLimit + 1) '1')

/-- A reference to a place with that name. -/
def longReference : Value := .map [(.str Reference.key, .str (Pointer.write [longSegment]))]

/-- An operation that answers with what stands at the place. -/
def longOperation : Operation where
  path := "/pets"
  method := "get"
  fields := [(.str "responses", .map [(.str "200", .map [(.str "schema", longReference)])])]
  pathIndex := 0
  methodIndex := 0

/-- A document of that operation, in which the place does not exist. -/
def longDocument : Entries := [
  (.str "paths", .map [(.str "/pets", .map [(.str "get", .map longOperation.fields)])])]

/-- Only arrays among the answers are looked for. -/
def longSettings : Settings := .mapping [(.str Rule.arrayResponse.key, .str "error")]

theorem overlong_longSegment : Pointer.Overlong longSegment := by
  refine ⟨⟨?_, ?_⟩, ?_⟩
  · rw [longSegment, String.toList_ofList, List.replicate_succ]
    exact List.cons_ne_nil _ _
  · intro c hc
    rw [longSegment, String.toList_ofList] at hc
    rw [List.eq_of_mem_replicate hc]
    decide
  · rw [longSegment, String.length_ofList, List.length_replicate]
    exact Nat.lt_succ_self _

theorem not_followable_longReference : ¬ Reference.Followable longDocument longReference := by
  intro h
  have hConvertible := h _ (Reference.pointer?_eq_some.mpr ⟨rfl, Pointer.startsWith_write _⟩)
  rw [Pointer.segments_write (List.cons_ne_nil _ _)] at hConvertible
  exact (Pointer.convertible_cons.mp hConvertible).1 overlong_longSegment

theorem longOperation_mem_encounters :
    .ok (.operation longOperation) ∈ Operation.encounters longDocument := by
  have hEntered : Operation.IsEntered "/pets" := by
    decide +kernel
  refine Operation.mem_encounters.mpr ⟨0, _, rfl, ?_⟩
  rw [Operation.encountersAt_of_item rfl hEntered rfl]
  exact Operation.mem_encountersIn.mpr ⟨0, _, rfl, rfl⟩

/-- A run does not complete if an answer points to a place whose name has too many digits, although
there is no such place and a shorter name would be passed over. -/
theorem runWith_fails : ¬ Completes (runWith longDocument longSettings) := by
  rw [runWith_eq_run, completes_run]
  intro h
  have hActive : Rule.arrayResponse ∈ (severitiesOf longSettings).active := by
    decide +kernel
  have hAnswers := h.rules longOperation longOperation_mem_encounters .arrayResponse hActive rfl
  have hAnswer := hAnswers _ List.mem_cons_self longReference rfl
  exact not_followable_longReference hAnswer.1

end Lint

end ApiLint
