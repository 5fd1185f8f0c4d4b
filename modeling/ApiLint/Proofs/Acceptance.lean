import ApiLint.Proofs.PlainForm

/-!
# Which data is a configuration

Data with texts as keys is accepted as a configuration if its section of severities, where it has
one, is a mapping in which the keys of rules hold names of severities. `Config.Proper` says this
without the validation. An object in a file may have names that are no texts, and then it is
refused.

A configuration that is accepted has for each rule the severity that the section names, or the one
that the rule is shipped with. Of the section nothing else is kept, of the other sections
everything. A section that is refused is refused for all rules with something else than a severity
at their keys, and for nothing besides.

* `Severities.problems_eq_map` — what is wrong with a section of severities;
* `Config.ofValue_of_accepted`, `Config.ofValue_of_refused` — what becomes of data with a section;
* `Config.ofValue_eq_ok_iff` — which data is accepted, and as which configuration;
* `Config.ofValue_accepts` — validation as a whole;
* `Config.ofObject_halfNamed` — an object that is refused for a name.
-/

namespace ApiLint

-- ---------------------------------------------------------------------------
-- Sections of severities
-- ---------------------------------------------------------------------------

/-- Whether a value is the name of a severity. -/
def Value.NamesSeverity (v : Value) : Prop :=
  v = .str "error" ∨ v = .str "warning" ∨ v = .str "off"

theorem Value.namesSeverity_iff {v : Value} :
    v.NamesSeverity ↔ ∃ s : Severity, v = .str s.name := by
  constructor
  · rintro (rfl | rfl | rfl)
    · exact ⟨.error, rfl⟩
    · exact ⟨.warning, rfl⟩
    · exact ⟨.off, rfl⟩
  · rintro ⟨s, rfl⟩
    cases s with
    | error => exact .inl rfl
    | warning => exact .inr (.inl rfl)
    | off => exact .inr (.inr rfl)

namespace Severities

variable {ops : Entries} {rule : Rule}

theorem given?_of_none (h : ops.field? rule.key = none) :
    given? ops rule = some (default.of rule) := by
  simp only [given?, h]

theorem given?_of_name {severity : Severity} (h : ops.field? rule.key = some (.str severity.name)) :
    given? ops rule = some severity := by
  simp only [given?, h, Severity.ofName?_eq_some]

theorem given?_of_other {v : Value} (h : ops.field? rule.key = some v)
    (hOther : Lint.isSeverity v = false) : given? ops rule = none := by
  unfold given?
  rw [h]
  split
  · next hNone => cases hNone
  · next text hText =>
    cases hText
    exact Option.isNone_iff_eq_none.mp (Option.isSome_eq_false_iff.mp hOther)
  · rfl

/-- What is wrong with a section are the rules whose keys hold something else than a severity. -/
theorem problems_eq_map (lead : String) (ops : Entries) :
    problems lead ops =
      (Lint.invalid ops).map fun (rule, v) => .severity (lead ++ rule.key) v.kind := by
  rw [problems, Lint.invalid, List.map_filterMap]
  apply List.filterMap_congr
  intro rule _
  cases hField : ops.field? rule.key with
  | none => simp [given?_of_none hField]
  | some v =>
    cases hSeverity : Lint.isSeverity v with
    | true =>
      obtain ⟨severity, rfl⟩ := Lint.isSeverity_iff.mp hSeverity
      simp [given?_of_name hField, hSeverity, Option.filter]
    | false => simp [given?_of_other hField hSeverity, hSeverity, Option.filter]

/-- Of a section, only what it holds at the keys of the rules counts. -/
theorem given?_congr {ops' : Entries}
    (h : ∀ rule : Rule, ops'.field? rule.key = ops.field? rule.key) :
    given? ops' = given? ops := by
  funext rule
  rw [given?, given?, h]

theorem ofEntries_congr {ops' : Entries}
    (h : ∀ rule : Rule, ops'.field? rule.key = ops.field? rule.key) :
    ofEntries ops' = ofEntries ops := by
  rw [ofEntries, ofEntries, given?_congr h]

theorem problems_congr {ops' : Entries}
    (h : ∀ rule : Rule, ops'.field? rule.key = ops.field? rule.key) (lead : String) :
    problems lead ops' = problems lead ops := by
  simp only [problems, given?_congr h, h]

theorem of_ofEntries_of_name {severity : Severity}
    (h : ops.field? rule.key = some (.str severity.name)) : (ofEntries ops).of rule = severity := by
  rw [ofEntries, of_ofFun, given?_of_name h, Option.getD_some]

theorem of_ofEntries_of_none (h : ops.field? rule.key = none) :
    (ofEntries ops).of rule = default.of rule := by
  rw [ofEntries, of_ofFun, given?_of_none h, Option.getD_some]

theorem ofEntries_nil : ofEntries [] = default := rfl

end Severities

theorem Lint.invalid_eq_nil {ops : Entries} :
    invalid ops = [] ↔ ∀ (rule : Rule) v, ops.field? rule.key = some v → v.NamesSeverity := by
  rw [List.eq_nil_iff_forall_not_mem, Prod.forall]
  refine forall₂_congr fun rule v => ?_
  rw [mem_invalid, Value.namesSeverity_iff, not_and]
  simp only [ne_eq, not_forall, not_not]

namespace Config

variable {es ops : Entries}

-- ---------------------------------------------------------------------------
-- Other sections
-- ---------------------------------------------------------------------------

theorem extrasOf_of_none (h : es.field? operationsKey = none) : extrasOf es = es := by
  rw [extrasOf, List.filter_eq_self]
  simpa [Entries.field?, Entries.get?] using h

/-- No section of other checkers has the key of the severities. -/
theorem field?_extrasOf (es : Entries) : (extrasOf es).field? operationsKey = none := by
  rw [Entries.field?, Entries.get?, Option.map_eq_none_iff, List.find?_eq_none]
  intro e he
  simpa using (List.mem_filter.mp he).2

theorem texts_extrasOf (hKeys : es.Texts) : (extrasOf es).Texts :=
  fun e he => hKeys e (List.mem_filter.mp he).1

section Split

variable {front back : Entries} {v : Value}

theorem apart_of_split (hDistinct : (front ++ (.str operationsKey, v) :: back).Distinct) :
    (∀ e ∈ front, (Key.str operationsKey).same e.1 = false) ∧
      ∀ e ∈ back, (Key.str operationsKey).same e.1 = false := by
  have hSelf : (Key.str operationsKey).same (.str operationsKey) = true := Key.same_str.mpr rfl
  rw [Entries.Distinct, List.map_append, List.pairwise_append] at hDistinct
  obtain ⟨-, hBack, hFront⟩ := hDistinct
  refine ⟨fun e he => ?_, fun e he => ?_⟩
  · refine Key.Apart.symm (hFront e.1 (List.mem_map_of_mem he) _ List.mem_cons_self) ?_ hSelf
    exact .str operationsKey
  · exact (List.pairwise_cons.mp hBack).1 e.1 (List.mem_map_of_mem he) (.str operationsKey) hSelf

theorem extrasOf_split (hDistinct : (front ++ (.str operationsKey, v) :: back).Distinct) :
    extrasOf (front ++ (.str operationsKey, v) :: back) = front ++ back := by
  have hSelf : (Key.str operationsKey).same (.str operationsKey) = true := Key.same_str.mpr rfl
  obtain ⟨hFront, hBack⟩ := apart_of_split hDistinct
  rw [extrasOf, List.filter_append, List.filter_cons_of_neg (by simp [hSelf])]
  congr 1
  · rw [List.filter_eq_self]
    simpa using hFront
  · rw [List.filter_eq_self]
    simpa using hBack

theorem field?_split (hDistinct : (front ++ (.str operationsKey, v) :: back).Distinct) :
    Entries.field? (front ++ (.str operationsKey, v) :: back) operationsKey = some v := by
  have hNone : front.get? (.str operationsKey) = none := by
    rw [Entries.get?, Option.map_eq_none_iff, List.find?_eq_none]
    simpa using (apart_of_split hDistinct).1
  rw [Entries.field?, Entries.get?_append, hNone, Option.none_or]
  exact field?_operations v back

end Split

-- ---------------------------------------------------------------------------
-- Accepting and refusing
-- ---------------------------------------------------------------------------

/-- The severities that data holds by the keys of rules, if it holds a mapping of them. -/
def sectionOf (es : Entries) : Entries :=
  match es.field? operationsKey with
  | some (.map ops) => ops
  | _ => []

/-- Whether data is a proper configuration: its section of severities, if there is one, is a mapping
in which every key of a rule that is there holds the name of a severity. -/
structure Proper (es : Entries) : Prop where
  mapping : ∀ v, es.field? "operations" = some v → ∃ ops, v = .map ops
  names : ∀ (rule : Rule) v, (sectionOf es).field? rule.key = some v → v.NamesSeverity

theorem sectionOf_of_map (h : es.field? operationsKey = some (.map ops)) : sectionOf es = ops := by
  simp only [sectionOf, h]

theorem proper_of_map (h : es.field? operationsKey = some (.map ops)) :
    Proper es ↔ Lint.invalid ops = [] := by
  have hMapping : ∀ v, es.field? operationsKey = some v → ∃ ops, v = .map ops := by
    intro v hv
    rw [h] at hv
    exact ⟨ops, (Option.some.inj hv).symm⟩
  rw [Lint.invalid_eq_nil, ← sectionOf_of_map h]
  exact ⟨Proper.names, fun hNames => ⟨hMapping, hNames⟩⟩

/-- Keys that are texts are no problem. -/
theorem problems_of_texts (hKeys : es.Texts) :
    problems es = match es.field? operationsKey with
      | none => []
      | some (.map ops) => Severities.problems (operationsKey ++ ".") ops
      | some v => [.mapping (some operationsKey) Severities.model v.kind] := by
  refine List.append_right_eq_self.mpr (List.filterMap_eq_nil_iff.mpr ?_)
  intro e he
  obtain ⟨s, hs⟩ := hKeys e he
  rw [hs]

theorem ofValue_of_no_section (hKeys : es.Texts) (h : es.field? operationsKey = none) :
    ofValue (.map es) = .ok ⟨Severities.default, es⟩ := by
  simp only [ofValue, problems_of_texts hKeys, h, extrasOf_of_none h]

/-- A section without problems is accepted. -/
theorem ofValue_of_accepted (hKeys : es.Texts) (h : es.field? operationsKey = some (.map ops))
    (hValid : Lint.invalid ops = []) :
    ofValue (.map es) = .ok ⟨.ofEntries ops, extrasOf es⟩ := by
  simp only [ofValue, problems_of_texts hKeys, h, Severities.problems_eq_map, hValid, List.map_nil]

/-- Any other section is refused for all its problems. -/
theorem ofValue_of_refused (hKeys : es.Texts) (h : es.field? operationsKey = some (.map ops))
    (hInvalid : Lint.invalid ops ≠ []) :
    ofValue (.map es) = .error ⟨model, (Lint.invalid ops).map fun (rule, v) =>
      .severity (operationsKey ++ "." ++ rule.key) v.kind⟩ := by
  have hProblems : problems es = (Lint.invalid ops).map fun (rule, v) =>
      .severity (operationsKey ++ "." ++ rule.key) v.kind := by
    rw [problems_of_texts hKeys, h]
    exact Severities.problems_eq_map _ ops
  rw [ofValue, hProblems]
  cases hList : Lint.invalid ops with
  | nil => exact absurd hList hInvalid
  | cons first rest => rfl

theorem ofValue_of_no_mapping (hKeys : es.Texts) {v : Value}
    (h : es.field? operationsKey = some v) (hOther : ∀ ops, v ≠ .map ops) :
    ofValue (.map es) =
      .error ⟨model, [.mapping (some operationsKey) Severities.model v.kind]⟩ := by
  have hProblems : problems es = [.mapping (some operationsKey) Severities.model v.kind] := by
    rw [problems_of_texts hKeys, h]
    split
    · next hNone => cases hNone
    · next ops hMap => exact absurd (Option.some.inj hMap) (hOther ops)
    · next v' _ hSome => rw [Option.some.inj hSome]
  rw [ofValue, hProblems]

/-- **Proper data is accepted**, and nothing else is. The configuration has the severities of the
section and all other sections. -/
theorem ofValue_eq_ok_iff (hKeys : es.Texts) {c : Config} :
    ofValue (.map es) = .ok c ↔
      Proper es ∧ c = ⟨.ofEntries (sectionOf es), extrasOf es⟩ := by
  cases h : es.field? operationsKey with
  | none =>
    have hSection : sectionOf es = [] := by simp only [sectionOf, h]
    have hProper : Proper es := by
      refine ⟨fun v hv => ?_, fun rule v hv => ?_⟩
      · rw [show es.field? "operations" = none from h] at hv
        cases hv
      · rw [hSection] at hv
        cases hv
    rw [ofValue_of_no_section hKeys h, and_iff_right hProper, hSection, Severities.ofEntries_nil,
      extrasOf_of_none h, Except.ok.injEq, eq_comm]
  | some v =>
    by_cases hMap : ∃ ops, v = .map ops
    · obtain ⟨ops, rfl⟩ := hMap
      rw [proper_of_map h, sectionOf_of_map h]
      by_cases hValid : Lint.invalid ops = []
      · rw [ofValue_of_accepted hKeys h hValid, and_iff_right hValid, Except.ok.injEq, eq_comm]
      · rw [ofValue_of_refused hKeys h hValid]
        exact iff_of_false (fun hOk => by cases hOk) fun hOk => hValid hOk.1
    · rw [ofValue_of_no_mapping hKeys h (not_exists.mp hMap)]
      exact iff_of_false (fun hOk => by cases hOk) fun hOk => hMap (hOk.1.mapping v h)

/-- What a section holds at other keys than those of rules has no part in what becomes of data. -/
theorem ofValue_congr {es' ops' : Entries} (hKeys : es.Texts) (hKeys' : es'.Texts)
    (h : es.field? operationsKey = some (.map ops))
    (h' : es'.field? operationsKey = some (.map ops')) (hExtras : extrasOf es' = extrasOf es)
    (hSame : ∀ rule : Rule, ops'.field? rule.key = ops.field? rule.key) :
    ofValue (.map es') = ofValue (.map es) := by
  simp only [ofValue, problems_of_texts hKeys, problems_of_texts hKeys', h, h', hExtras,
    Severities.problems_congr hSame, Severities.ofEntries_congr hSame]

/-- **Validation accepts proper data and is idempotent.** Of data with distinct texts as keys it
accepts what is proper. The configuration then has, for each rule, the severity that is named or the
one that the rule is shipped with, and all other sections in their order; and its plain form, the
severities of all rules and then the other sections, is accepted as the same configuration. What a
section holds at other keys makes no difference. A section that is refused is refused for exactly
the rules with something else than a severity at their keys, each once and in the order of the
rules. -/
theorem ofValue_accepts (hKeys : es.Texts) (hDistinct : es.Distinct) :
    ((∃ c, ofValue (.map es) = .ok c) ↔ Proper es) ∧
      (∀ c, ofValue (.map es) = .ok c →
        (∀ (rule : Rule) (severity : Severity),
          (sectionOf es).field? rule.key = some (.str severity.name) →
            c.operations.of rule = severity) ∧
        (∀ rule : Rule, (sectionOf es).field? rule.key = none →
          c.operations.of rule =
            if rule ∈ [.writeConsumes, .produces, .arrayResponse] then .error else .warning) ∧
        (es.field? "operations" = none → c.extras = es) ∧
        (∀ front v back, es = front ++ (.str "operations", v) :: back →
          c.extras = front ++ back) ∧
        ofValue (.map ((.str "operations", .map (Rule.all.map fun rule =>
          (.str rule.key, .str (c.operations.of rule).name))) :: c.extras)) = .ok c) ∧
      ∀ (front ops back : Entries), es = front ++ (.str "operations", .map ops) :: back →
        (∀ ops' : Entries, (∀ rule : Rule, ops'.field? rule.key = ops.field? rule.key) →
          ofValue (.map (front ++ (.str "operations", .map ops') :: back)) =
            ofValue (.map es)) ∧
        ∀ r, ofValue (.map es) = .error r →
          ∃ offending : List (Rule × Value),
            r = ⟨"LintConfig", offending.map fun (rule, v) =>
              .severity ("operations." ++ rule.key) v.kind⟩ ∧
            (offending.map Prod.fst).Sublist Rule.all ∧
            ∀ rule v, (rule, v) ∈ offending ↔
              ops.field? rule.key = some v ∧ ¬ v.NamesSeverity := by
  refine ⟨?_, ?_, ?_⟩
  · simp only [ofValue_eq_ok_iff hKeys, exists_and_left, exists_eq, and_true]
  · intro c hOk
    obtain ⟨-, rfl⟩ := (ofValue_eq_ok_iff hKeys).mp hOk
    refine ⟨fun _ _ => Severities.of_ofEntries_of_name, ?_, extrasOf_of_none, ?_, ?_⟩
    · intro rule hNone
      rw [Severities.of_ofEntries_of_none hNone]
      cases rule <;> rfl
    · rintro front v back rfl
      exact extrasOf_split hDistinct
    · exact ofValue_toValue (texts_extrasOf hKeys) (field?_extrasOf es)
  · rintro front ops back rfl
    have hField := field?_split hDistinct
    refine ⟨fun ops' hSame => ?_, fun r hError => ?_⟩
    · have hDistinct' : Entries.Distinct (front ++ (.str operationsKey, .map ops') :: back) := by
        rw [Entries.Distinct, List.map_append] at hDistinct ⊢
        exact hDistinct
      have hKeys' : Entries.Texts (front ++ (.str operationsKey, .map ops') :: back) := by
        simpa [Entries.Texts, or_imp, forall_and] using hKeys
      exact ofValue_congr hKeys hKeys' hField (field?_split hDistinct')
        ((extrasOf_split hDistinct').trans (extrasOf_split hDistinct).symm) hSame
    · have hInvalid : Lint.invalid ops ≠ [] := by
        intro hValid
        rw [ofValue_of_accepted hKeys hField hValid] at hError
        cases hError
      rw [ofValue_of_refused hKeys hField hInvalid] at hError
      cases hError
      refine ⟨Lint.invalid ops, rfl, Lint.map_fst_filterMap_sublist _ Rule.all, fun rule v => ?_⟩
      rw [Lint.mem_invalid, Value.namesSeverity_iff, not_exists]

/-- Data with a section of severities between those of other checkers. -/
def dataAround (ops : Entries) : Entries := [
  (.str "theme", .list [.int 1, .null]), (.str "operations", .map ops),
  (.str "Operations", .map [(.str "no_summary", .str "fatal")])]

/-- A section that names two rules, one of them also in capitals. -/
def partialSection : Entries := [
  (.str "parameter_order", .str "error"), (.str "NO_SUMMARY", .int 3),
  (.str "no_summary", .str "off")]

/-- A section with a severity in capitals and with null for one. -/
def brokenSection : Entries := [
  (.str "parameter_order", .null), (.str "no_produces", .str "off"),
  (.str "no_summary", .str "OFF")]

theorem ofValue_accepts_partial :
    (∃ c, ofValue (.map (dataAround partialSection)) = .ok c ∧
      c.operations.of .summary = .off ∧ c.operations.of .parameterOrder = .error ∧
      c.operations.of .produces = .error ∧ c.operations.of .operationId = .warning ∧
      c.extras = [(.str "theme", .list [.int 1, .null]),
        (.str "Operations", .map [(.str "no_summary", .str "fatal")])]) ∧
    ∃ offending : List (Rule × Value),
      ofValue (.map (dataAround brokenSection)) = .error ⟨"LintConfig",
        offending.map fun (rule, v) => .severity ("operations." ++ rule.key) v.kind⟩ ∧
      (offending.map Prod.fst).Sublist Rule.all ∧ (.summary, .str "OFF") ∈ offending ∧
      (.parameterOrder, .null) ∈ offending := by
  have hKeys : ∀ ops, (dataAround ops).Texts := by
    intro ops
    simp [dataAround, Entries.Texts]
  have hDistinct : ∀ ops, (dataAround ops).Distinct := fun ops => .of_ofPairs rfl
  refine ⟨?_, ?_⟩
  · obtain ⟨hAccepts, hAccepted, -⟩ := ofValue_accepts (hKeys partialSection) (hDistinct _)
    have hProper : Proper (dataAround partialSection) := by
      rw [proper_of_map rfl]
      rfl
    obtain ⟨c, hOk⟩ := hAccepts.mpr hProper
    obtain ⟨hNamed, hShipped, -, hExtras, -⟩ := hAccepted c hOk
    exact ⟨c, hOk, hNamed .summary .off rfl, hNamed .parameterOrder .error rfl,
      hShipped .produces rfl, hShipped .operationId rfl, hExtras [_] _ [_] rfl⟩
  · obtain ⟨-, -, hSection⟩ := ofValue_accepts (hKeys brokenSection) (hDistinct _)
    obtain ⟨-, hRefused⟩ := hSection [_] brokenSection [_] rfl
    obtain ⟨offending, hProblems, hOrder, hOffending⟩ := hRefused _ rfl
    refine ⟨offending, congrArg Except.error hProblems, hOrder, ?_, ?_⟩
    · exact (hOffending _ _).mpr ⟨rfl, by simp [Value.NamesSeverity]⟩
    · exact (hOffending _ _).mpr ⟨rfl, by simp [Value.NamesSeverity]⟩

/-- An object with one member, which is named by half of a surrogate pair. -/
def halfNamed : String := "\x7b\"\\ud800\": 1\x7d"

/-- **A name that is no text is refused**, although the data is proper. -/
theorem ofObject_halfNamed :
    ∃ es : Entries, Json.read halfNamed = .ok (.map es) ∧ es.field? "operations" = none ∧
      Proper es ∧ ofObject (Json.names halfNamed) es = .error ⟨"LintConfig", [.sectionName]⟩ := by
  have hRead : (Json.read halfNamed).toOption.map
      (fun v => (v.kind, (v.field? "operations").isNone)) = some ("dict", true) := by
    decide +kernel
  have hNames : (Json.names halfNamed).all Text.CodePoint.isText = false := by
    decide +kernel
  obtain ⟨v, hObject, hShape⟩ := Option.map_eq_some_iff.mp hRead
  obtain ⟨hKind, hNone⟩ := Prod.mk.inj hShape
  cases v with
  | map es =>
    have hNone : Entries.field? es "operations" = none := Option.isNone_iff_eq_none.mp hNone
    refine ⟨es, Outcome.eq_ok_of_toOption hObject, hNone, ⟨?_, ?_⟩, ?_⟩
    · intro v hv
      rw [hNone] at hv
      cases hv
    · intro rule v hv
      simp only [sectionOf, operationsKey, hNone] at hv
      cases hv
    · rw [ofObject, hNames]
      rfl
  | scalar s => cases s <;> simp [Value.kind, Scalar.kind] at hKind
  | _ => simp [Value.kind] at hKind

end Config

end ApiLint
