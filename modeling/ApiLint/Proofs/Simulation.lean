import ApiLint.Proofs.Accord
import ApiLint.Proofs.Likeness
import ApiLint.Proofs.Opening
import ApiLint.Proofs.Violations

/-!
# Documents that are checked alike

`Simulation` is what a relation between values must satisfy so that runs on related documents agree.
Beside the requirements of a likeness, related values have a text together or not at all, and
passing over the entries of related mappings gives the same results, in the same order or in any
order.

* `Simulation.presence` — the presence of related fields is the same;
* `Simulation.places` — a rule finds the same places in related operations;
* `Simulation.runWith` — runs on related documents agree.
-/

namespace ApiLint

open Outcome

/-- Entries from which the same is gathered by steps that agree on entries whose keys have the same
text and whose values are related. -/
structure Entries.Matched (c : Comparison) (R : Value → Value → Prop) (es fs : Entries) : Prop where
  gather : ∀ {β : Type} {f g : Key × Value → Except Fault (List β)},
    (∀ e e', e.1.text = e'.1.text → R e.2 e'.2 → Accord c.Same (f e) (g e')) →
      Accord c.Same (Outcome.gather f es) (Outcome.gather g fs)

theorem Entries.Matched.nil {c : Comparison} {R : Value → Value → Prop} : Matched c R [] [] :=
  ⟨fun _ => .ok (c.same_refl [])⟩

/-- A relation between values on which runs agree. Findings are compared as `c` says. -/
structure Simulation (c : Comparison) (asks : String → Prop) (R : Value → Value → Prop) : Prop
    extends Likeness asks R where
  /-- Whatever is no numeral may be asked for. -/
  words : ∀ {name}, ¬ Pointer.IsNumeral name → asks name
  /-- References in related values ask for nothing that may not be asked for. -/
  asked : ∀ {v w}, R v w → Reference.AsksOnly asks v
  writable : ∀ {v w}, R v w → (v.Writable ↔ w.Writable)
  entries : ∀ {es fs}, R (.map es) (.map fs) → Entries.Matched c R es fs

-- ---------------------------------------------------------------------------
-- Blank texts
-- ---------------------------------------------------------------------------

/-- Two texts of which both are blank or none is. -/
def Text.BlankAlike (s t : String) : Prop := allBlank s = allBlank t

theorem Text.BlankAlike.refl (s : String) : BlankAlike s s := Eq.refl (allBlank s)

theorem Text.allBlank_append (s t : String) : allBlank (s ++ t) = (allBlank s && allBlank t) := by
  rw [allBlank, allBlank, allBlank, String.toList_append, List.all_append]

theorem Text.allBlank_join_cons (s : String) (ss : List String) :
    allBlank (String.join (s :: ss)) = (allBlank s && allBlank (String.join ss)) := by
  rw [String.join_cons, allBlank_append]

/-- An item that is no scalar contributes a text that is not blank. -/
theorem Presence.not_blank_of_itemText {v : Value} {t : String} (h : itemText v = .ok t)
    (hv : ∀ s, v ≠ .scalar s) : Text.allBlank t = false := by
  have hText : v.text = .ok t := by
    unfold itemText at h
    split at h
    · exact absurd rfl (hv _)
    · exact h
  exact (Value.opens hText fun s hs => hv (.str s) hs).not_allBlank

/-- The presence of a value other than null, as a function of the text by which it is judged. -/
theorem Presence.of_eq_map {v : Value} (h : v ≠ .null) :
    Presence.of v =
      (fun text => if Text.allBlank text then .empty else .nonEmpty) <$> content v := by
  unfold Presence.of
  split
  · exact absurd rfl h
  · exact bind_pure_comp _ _

namespace Simulation

variable {c : Comparison} {asks : String → Prop} {R : Value → Value → Prop}
variable (h : Simulation c asks R)

include h

-- ---------------------------------------------------------------------------
-- Fields
-- ---------------------------------------------------------------------------

theorem field (name : String) (hWord : ¬ Pointer.IsNumeral name) {es fs : Entries}
    (hR : R (.map es) (.map fs)) :
    (es.field? name = none ∧ fs.field? name = none) ∨
      ∃ a b, es.field? name = some a ∧ fs.field? name = some b ∧ R a b :=
  h.part name (h.words hWord) hWord hR

theorem isExcluded_eq {es fs : Entries} (hR : R (.map es) (.map fs)) :
    Operation.isExcluded es = Operation.isExcluded fs := by
  unfold Operation.isExcluded
  rcases h.field Operation.excludeKey (by decide) hR with
    ⟨hes, hfs⟩ | ⟨a, b, hes, hfs, hPart⟩
  · rw [hes, hfs]
  · rw [hes, hfs]
    cases h.alike hPart <;> rfl

theorem isDeclared_eq {es fs : Entries} (hR : R (.map es) (.map fs)) {name : String}
    (hWord : ¬ Pointer.IsNumeral name) : Rule.isDeclared es name = Rule.isDeclared fs name := by
  unfold Rule.isDeclared
  rcases h.field name hWord hR with ⟨hes, hfs⟩ | ⟨a, b, hes, hfs, hPart⟩
  · rw [hes, hfs]
  · rw [hes, hfs]
    cases h.alike hPart <;> rfl

theorem look {document document' node node' : Value} (hDocument : R document document')
    (hNode : R node node') : Rule.look document node = Rule.look document' node' :=
  h.look_eq hDocument hNode (h.words (by decide)) (h.asked hNode)

-- ---------------------------------------------------------------------------
-- Presence
-- ---------------------------------------------------------------------------

/-- Related values contribute texts of which both are blank or none is. -/
theorem itemText {v w : Value} (hR : R v w) :
    Accord Text.BlankAlike (Presence.itemText v) (Presence.itemText w) := by
  refine .of_completes_iff ?_ ?_
  · rw [Presence.completes_itemText, Presence.completes_itemText]
    exact h.writable hR
  · intro s t hs ht
    cases h.alike hR with
    | scalar x =>
      rw [hs] at ht
      cases ht
      exact rfl
    | set items =>
      rw [hs] at ht
      cases ht
      exact rfl
    -- the text of a value with parts begins with a bracket
    | list | tuple | map =>
      rw [Text.BlankAlike, Presence.not_blank_of_itemText hs (by simp),
        Presence.not_blank_of_itemText ht (by simp)]

theorem itemTexts {vs ws : List Value} (hItems : List.Forall₂ R vs ws) :
    Accord (fun ss ts => Text.BlankAlike (String.join ss) (String.join ts))
      (vs.mapM Presence.itemText) (ws.mapM Presence.itemText) := by
  induction hItems with
  | nil => exact .ok rfl
  | cons hHead _ ih =>
    rw [List.mapM_cons, List.mapM_cons]
    apply (h.itemText hHead).bind
    intro s t hst
    apply ih.bind
    intro ss ts hssts
    refine .ok ?_
    rw [Text.BlankAlike, Text.allBlank_join_cons, Text.allBlank_join_cons, hst, hssts]

theorem content {v w : Value} (hR : R v w) :
    Accord Text.BlankAlike (Presence.content v) (Presence.content w) := by
  cases h.alike hR with
  | scalar x => exact .refl Text.BlankAlike.refl _
  | set items => exact .refl Text.BlankAlike.refl _
  | list hItems => exact (h.itemTexts hItems).bind fun _ _ hBlank => .ok hBlank
  | tuple hItems => exact (h.itemTexts hItems).bind fun _ _ hBlank => .ok hBlank
  | map es fs => exact h.itemText hR

theorem presence_of {v w : Value} (hR : R v w) :
    Accord Eq (Presence.of v) (Presence.of w) := by
  by_cases hNull : v = .null
  · subst hNull
    cases h.alike hR
    exact .refl (fun _ => rfl) _
  · have hNull' : w ≠ .null := by
      rintro rfl
      cases h.alike hR
      exact hNull rfl
    rw [Presence.of_eq_map hNull, Presence.of_eq_map hNull']
    apply (h.content hR).map
    intro s t hst
    rw [Text.BlankAlike] at hst
    rw [hst]

/-- The presence of related fields is the same. -/
theorem presence {es fs : Entries} (hR : R (.map es) (.map fs)) {name : String}
    (hWord : ¬ Pointer.IsNumeral name) :
    Accord Eq (Presence.ofField es name) (Presence.ofField fs name) := by
  unfold Presence.ofField
  rcases h.field name hWord hR with ⟨hes, hfs⟩ | ⟨a, b, hes, hfs, hPart⟩
  · rw [hes, hfs]
    exact .refl (fun _ => rfl) _
  · rw [hes, hfs]
    exact h.presence_of hPart

-- ---------------------------------------------------------------------------
-- Operations
-- ---------------------------------------------------------------------------

omit h in
/-- Operations under one path and method with related fields. -/
structure Operations (R : Value → Value → Prop) (op op' : Operation) : Prop where
  path : op.path = op'.path
  method : op.method = op'.method
  fields : R (.map op.fields) (.map op'.fields)

omit h in
theorem Operations.place {op op' : Operation} (hOp : Operations R op op') (names : List String) :
    op.place names = op'.place names := by
  rw [Operation.place, Operation.place, hOp.path, hOp.method]

theorem answers {op op' : Operation} (hOp : Operations R op op') :
    Entries.Matched c R op.answers op'.answers := by
  unfold Operation.answers
  rcases h.field "responses" (by decide) hOp.fields with
    ⟨hes, hfs⟩ | ⟨a, b, hes, hfs, hPart⟩
  · rw [hes, hfs]
    exact .nil
  · rw [hes, hfs]
    cases h.alike hPart with
    | map es fs => exact h.entries hPart
    | _ => exact .nil

theorem parameters {op op' : Operation} (hOp : Operations R op op') :
    List.Forall₂ R op.parameters op'.parameters := by
  unfold Operation.parameters
  rcases h.field "parameters" (by decide) hOp.fields with
    ⟨hes, hfs⟩ | ⟨a, b, hes, hfs, hPart⟩
  · rw [hes, hfs]
    exact .nil
  · rw [hes, hfs]
    cases h.alike hPart with
    | list hItems => exact hItems
    | tuple hItems => exact hItems
    | _ => exact .nil

-- ---------------------------------------------------------------------------
-- Where operations stand
-- ---------------------------------------------------------------------------

theorem fieldsAt? {v w : Value} (hR : R v w) (method : String) :
    (Operation.fieldsAt? method v = none ∧ Operation.fieldsAt? method w = none) ∨
      ∃ es fs, Operation.fieldsAt? method v = some es ∧ Operation.fieldsAt? method w = some fs ∧
        R (.map es) (.map fs) := by
  unfold Operation.fieldsAt?
  cases Operation.methods.contains method with
  | false => exact .inl ⟨rfl, rfl⟩
  | true =>
    cases h.alike hR with
    | map es fs =>
      dsimp only
      rw [h.isExcluded_eq hR]
      split
      · exact .inl ⟨rfl, rfl⟩
      · exact .inr ⟨es, fs, rfl, rfl, hR⟩
    | _ => exact .inl ⟨rfl, rfl⟩

theorem itemAt {v w : Value} (hR : R v w) (path : String) :
    Entries.Matched c R (Operation.itemAt path v) (Operation.itemAt path w) := by
  unfold Operation.itemAt
  split
  · exact .nil
  · cases h.alike hR with
    | map es fs => exact h.entries hR
    | _ => exact .nil

theorem pathEntries {es fs : Entries} (hR : R (.map es) (.map fs)) :
    Entries.Matched c R (Operation.pathEntries es) (Operation.pathEntries fs) := by
  unfold Operation.pathEntries
  rcases h.field "paths" (by decide) hR with ⟨hes, hfs⟩ | ⟨a, b, hes, hfs, hPart⟩
  · rw [hes, hfs]
    exact .nil
  · rw [hes, hfs]
    cases h.alike hPart with
    | map => exact h.entries hPart
    | _ => exact .nil

-- ---------------------------------------------------------------------------
-- Rules
-- ---------------------------------------------------------------------------

section Places

variable {document document' : Entries} (hDocument : R (.map document) (.map document'))

include hDocument

theorem isMissing {op op' : Operation} (hOp : Operations R op op') {name : String}
    (hWord : ¬ Pointer.IsNumeral name) :
    Accord Eq (Rule.isMissing document op name) (Rule.isMissing document' op' name) := by
  unfold Rule.isMissing
  apply (h.presence hOp.fields hWord).bind
  rintro presence _ rfl
  rw [h.isDeclared_eq hDocument hWord]
  exact .ok rfl

theorem answersArray_eq {response response' : Value} (hR : R response response') :
    Rule.answersArray (.map document) response = Rule.answersArray (.map document') response' := by
  rcases h.part "schema" (h.words (by decide)) (by decide) hR with
    ⟨hv, hw⟩ | ⟨a, b, hv, hw, hPart⟩
  · rw [Rule.answersArray_of_none hv, Rule.answersArray_of_none hw]
  · rw [Rule.answersArray_eq_look hv, Rule.answersArray_eq_look hw, h.look hDocument hPart]

theorem arrayResponses {op op' : Operation} (hOp : Operations R op op') :
    Accord c.Same (Rule.arrayResponses (.map document) op.answers)
      (Rule.arrayResponses (.map document') op'.answers) := by
  rw [Rule.arrayResponses_eq_gather, Rule.arrayResponses_eq_gather]
  apply (h.answers hOp).gather
  intro answer answer' hText hR
  rw [Rule.arrayName, Rule.arrayName, hText, h.answersArray_eq hDocument hR]
  exact .refl c.same_refl _

theorem lateRequired_eq {op op' : Operation} (hOp : Operations R op op') :
    Rule.lateRequired (.map document) false 0 op.parameters =
      Rule.lateRequired (.map document') false 0 op'.parameters := by
  apply Rule.lateRequired_congr
  exact (h.parameters hOp).imp fun _ _ hR => h.look hDocument hR

/-- A rule finds the same places in related operations. -/
theorem places {op op' : Operation} (hOp : Operations R op op') (rule : Rule) :
    Accord c.Same (rule.places document op) (rule.places document' op') := by
  cases rule with
  | writeConsumes =>
    simp only [Rule.places, hOp.method, hOp.place]
    split
    · exact .refl c.same_refl _
    · apply (h.isMissing hDocument hOp (by decide)).bind
      rintro isMissing _ rfl
      exact .refl c.same_refl _
  | readConsumes =>
    simp only [Rule.places, hOp.method, hOp.place]
    split
    · exact .refl c.same_refl _
    · rcases h.field "consumes" (by decide) hOp.fields with
        ⟨hes, hfs⟩ | ⟨a, b, hes, hfs, hPart⟩
      · rw [hes, hfs]
        exact .refl c.same_refl _
      · rw [hes, hfs]
        cases h.alike hPart <;> exact .refl c.same_refl _
  | produces =>
    simp only [Rule.places, hOp.method, hOp.place]
    split
    · exact .refl c.same_refl _
    · apply (h.isMissing hDocument hOp (by decide)).bind
      rintro isMissing _ rfl
      exact .refl c.same_refl _
  | operationId =>
    simp only [Rule.places, hOp.place]
    apply (h.presence hOp.fields (by decide)).bind
    rintro presence _ rfl
    exact .refl c.same_refl _
  | summary =>
    simp only [Rule.places, hOp.place]
    apply (h.presence hOp.fields (by decide)).bind
    rintro presence _ rfl
    exact .refl c.same_refl _
  | arrayResponse =>
    rw [Rule.places_arrayResponse, Rule.places_arrayResponse]
    simp only [hOp.method, hOp.place]
    split
    · exact .refl c.same_refl _
    · exact (h.arrayResponses hDocument hOp).map fun _ _ => Comparison.same_map _
  | parameterOrder =>
    rw [Rule.places_parameterOrder, Rule.places_parameterOrder, h.lateRequired_eq hDocument hOp]
    simp only [hOp.place]
    exact .refl c.same_refl _

-- ---------------------------------------------------------------------------
-- Runs
-- ---------------------------------------------------------------------------

theorem violationsIn {op op' : Operation} (hOp : Operations R op op') (rules : List Rule) :
    Accord c.Same (Lint.violationsIn document rules op)
      (Lint.violationsIn document' rules op') := by
  apply accord_gather
  rw [List.forall₂_same]
  intro rule _
  exact (h.places hDocument hOp rule).map fun _ _ => Comparison.same_map _

theorem violationsAt {path : String} {e e' : Key × Value} (hText : e.1.text = e'.1.text)
    (hR : R e.2 e'.2) (rules : List Rule) :
    Accord c.Same (Lint.violationsAt document rules path e)
      (Lint.violationsAt document' rules path e') := by
  cases hMethod : e.1.text with
  | error fault =>
    rw [Lint.violationsAt_of_error hMethod, Lint.violationsAt_of_error (hText.symm.trans hMethod)]
    exact .error _ _
  | ok method =>
    rw [Lint.violationsAt_of_text hMethod, Lint.violationsAt_of_text (hText.symm.trans hMethod)]
    rcases h.fieldsAt? hR method with ⟨hv, hw⟩ | ⟨es, fs, hv, hw, hFields⟩
    · rw [hv, hw]
      exact .ok (c.same_refl [])
    · rw [hv, hw]
      have hOp : Operations R ⟨path, method, es, 0, 0⟩ ⟨path, method, fs, 0, 0⟩ :=
        ⟨rfl, rfl, hFields⟩
      exact h.violationsIn hDocument hOp rules

theorem violationsUnder {e e' : Key × Value} (hText : e.1.text = e'.1.text) (hR : R e.2 e'.2)
    (rules : List Rule) :
    Accord c.Same (Lint.violationsUnder document rules e)
      (Lint.violationsUnder document' rules e') := by
  cases hPath : e.1.text with
  | error fault =>
    rw [Lint.violationsUnder_of_error hPath, Lint.violationsUnder_of_error (hText.symm.trans hPath)]
    exact .error _ _
  | ok path =>
    rw [Lint.violationsUnder_of_text hPath, Lint.violationsUnder_of_text (hText.symm.trans hPath)]
    apply (h.itemAt hR path).gather
    intro entry entry' hText' hR'
    exact h.violationsAt hDocument hText' hR' rules

theorem violations (rules : List Rule) :
    Accord c.Same (Lint.violations document rules) (Lint.violations document' rules) := by
  apply (h.pathEntries hDocument).gather
  intro e e' hText hR
  exact h.violationsUnder hDocument hText hR rules

/-- Runs on related documents agree. -/
theorem runWith (settings : Settings) :
    Accord (fun found found' => c.Same found.errors found'.errors ∧
        c.Same found.warnings found'.warnings)
      (Lint.runWith document settings) (Lint.runWith document' settings) := by
  rw [Lint.runWith_eq_run, Lint.runWith_eq_run, Lint.run_eq_route, Lint.run_eq_route]
  apply (h.violations hDocument _).map
  intro vs ws hSame
  exact ⟨Comparison.same_map _ (Comparison.same_filter _ hSame),
    Comparison.same_map _ (Comparison.same_filter _ hSame)⟩

end Places

end Simulation

end ApiLint
