import ApiLint.Proofs.BareMapping
import ApiLint.Proofs.JsonWriting
import ApiLint.Proofs.Precedence

/-!
# Plain forms of configurations

A configuration is written as a mapping of its severities by the keys of the rules, followed by the
sections of other checkers. Reading this form gives the configuration back, whether it is taken as a
value or as the text of a file.

* `Severities.given?_toEntries` — every rule is given the severity that was written;
* `Config.ofValue_toValue` — a configuration is what its plain form spells out;
* `ConfigFile.parse_render` — the text of a configuration file is read back.
-/

namespace ApiLint

-- ---------------------------------------------------------------------------
-- Named values
-- ---------------------------------------------------------------------------

namespace Entries

variable {α : Type} {name : α → String} {value : α → Value}

/-- Values under different names are found by their names. -/
theorem field?_map (hName : Function.Injective name) {xs : List α} {x : α} (h : x ∈ xs) :
    field? (xs.map fun y => (.str (name y), value y)) (name x) = some (value x) := by
  induction xs with
  | nil => cases h
  | cons y ys ih =>
    rw [List.map_cons, field?_cons_str]
    by_cases hSame : name y = name x
    · rw [if_pos hSame, hName hSame]
    · rw [if_neg hSame]
      refine ih (List.mem_of_ne_of_mem ?_ h)
      rintro rfl
      exact hSame rfl

/-- Values under different names build a mapping of just these entries. -/
theorem ofPairs_map (hName : Function.Injective name) {xs : List α} (hNodup : xs.Nodup) :
    ofPairs (xs.map fun x => (.str (name x), value x)) =
      xs.map fun x => (.str (name x), value x) := by
  -- put in one after the other, each is added at the end of those that are there
  have hFold : ∀ es : Entries, (∀ x ∈ xs, es.field? (name x) = none) →
      (xs.map fun x => (Key.str (name x), value x)).foldl (fun es e => insert es e.1 e.2) es =
        es ++ xs.map fun x => (.str (name x), value x) := by
    induction xs with
    | nil => exact fun es _ => (List.append_nil es).symm
    | cons x xs ih =>
      intro es hNew
      obtain ⟨hFirst, hRest⟩ := List.forall_mem_cons.mp hNew
      obtain ⟨hNotMem, hNodup⟩ := List.nodup_cons.mp hNodup
      have hLater : ∀ y ∈ xs, field? (es ++ [(.str (name x), value x)]) (name y) = none := by
        intro y hy
        have hDiffer : name x ≠ name y := by
          intro hSame
          exact hNotMem (hName hSame ▸ hy)
        have hEarlier : es.get? (.str (name y)) = none := hRest y hy
        rw [field?, get?_append, hEarlier, Option.none_or]
        exact (field?_cons_str _ _ [] _).trans (if_neg hDiffer)
      rw [List.map_cons, List.foldl_cons, insert_of_field?_eq_none hFirst, ih hNodup _ hLater,
        List.append_assoc, List.singleton_append]
  exact hFold [] fun _ _ => rfl

end Entries

-- ---------------------------------------------------------------------------
-- Severities
-- ---------------------------------------------------------------------------

theorem Rule.key_injective : Function.Injective Rule.key := by
  have hAll : ∀ rule ∈ all, ∀ rule' ∈ all, rule.key = rule'.key → rule = rule' := by decide
  intro rule rule' h
  exact hAll rule (mem_all rule) rule' (mem_all rule') h

namespace Severities

/-- Every rule is given the severity that was written. -/
theorem given?_toEntries (s : Severities) (rule : Rule) :
    given? s.toEntries rule = some (s.of rule) := by
  have hField : s.toEntries.field? rule.key = some (.str (s.of rule).name) :=
    Entries.field?_map Rule.key_injective (Rule.mem_all rule)
  simp only [given?, hField, Severity.ofName?_eq_some]

theorem problems_toEntries (lead : String) (s : Severities) : problems lead s.toEntries = [] := by
  simp only [problems, given?_toEntries, List.filterMap_eq_nil_iff, implies_true]

theorem ofEntries_toEntries (s : Severities) : ofEntries s.toEntries = s := by
  simp only [ofEntries, given?_toEntries, Option.getD_some, ofFun_of]

end Severities

-- ---------------------------------------------------------------------------
-- Configurations
-- ---------------------------------------------------------------------------

namespace Config

theorem field?_operations (ops : Value) (extras : Entries) :
    Entries.field? ((.str operationsKey, ops) :: extras) operationsKey = some ops := by
  rw [Entries.field?_cons_str, if_pos rfl]

/-- Entries under text keys are no problem if their severities are not. -/
theorem problems_toValue {c : Config} (hKeys : c.extras.Texts) :
    problems ((.str operationsKey, .map c.operations.toEntries) :: c.extras) = [] := by
  unfold problems
  rw [field?_operations]
  dsimp only
  rw [Severities.problems_toEntries, List.nil_append, List.filterMap_eq_nil_iff]
  intro e he
  rcases List.mem_cons.mp he with rfl | he
  · rfl
  · obtain ⟨s, hs⟩ := hKeys e he
    rw [hs]

theorem extrasOf_toValue {c : Config} (hOwn : c.extras.field? operationsKey = none) :
    extrasOf ((.str operationsKey, .map c.operations.toEntries) :: c.extras) = c.extras := by
  have hKeep : ∀ e ∈ c.extras, (!(Key.str operationsKey).same e.1) = true := by
    simpa [Entries.field?, Entries.get?] using hOwn
  have hSame : (Key.str operationsKey).same (.str operationsKey) = true := Key.same_str.mpr rfl
  rw [extrasOf, List.filter_cons_of_neg (by simp [hSame]), List.filter_eq_self]
  exact hKeep

/-- **A configuration is what its plain form spells out**, if the sections of other checkers have
texts as keys and none of them is that of the severities. -/
theorem ofValue_toValue {c : Config} (hKeys : c.extras.Texts)
    (hOwn : c.extras.field? operationsKey = none) : ofValue c.toValue = .ok c := by
  simp only [toValue, ofValue, problems_toValue hKeys, field?_operations,
    Severities.ofEntries_toEntries, extrasOf_toValue hOwn]

end Config

-- ---------------------------------------------------------------------------
-- Files
-- ---------------------------------------------------------------------------

namespace ConfigFile

open Json (Tree)

theorem tree_textual (s : Severities) : (tree s).Textual := by
  refine .obj (List.forall_mem_singleton.mpr (.obj ?_))
  intro member hMember
  obtain ⟨rule, -, rfl⟩ := List.mem_map.mp hMember
  exact .str _

theorem tree_toValue (s : Severities) : (tree s).toValue = Config.toValue ⟨s, []⟩ := by
  have hPairs : ∀ rules : List Rule,
      Tree.toPairs (rules.map fun rule => (rule.key, .str (s.of rule).name)) =
        rules.map fun rule => (.str rule.key, .str (s.of rule).name) := by
    intro rules
    induction rules with
    | nil => rfl
    | cons rule rules ih => rw [List.map_cons, List.map_cons, Tree.toPairs, ih, Tree.toValue]
  have hRules : Rule.all.Nodup := by decide
  rw [tree, Tree.toValue, Tree.toPairs, Tree.toPairs, Tree.toValue, hPairs,
    Entries.ofPairs_map Rule.key_injective hRules]
  rfl

/-- **The text of a configuration is read back** as the configuration. -/
theorem parse_render (path : FilePath) (s : Severities) :
    parse path ((tree s).render ++ "\n") = .ok ⟨s, []⟩ := by
  have hBlank : ∀ c ∈ "\n".toList, Json.isSpace c := by
    simp [Json.isSpace]
  have hRead := Json.read_render (tree_textual s) hBlank
  rw [tree_toValue] at hRead
  exact parse_eq_ok_iff.mpr ⟨_, hRead, Json.isText_of_mem_names_render (tree_textual s) _,
    Config.ofValue_toValue Entries.texts_nil rfl⟩

end ConfigFile

end ApiLint
