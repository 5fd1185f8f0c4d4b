import ApiLint.Proofs.Simulation
import ApiLint.Proofs.WellFormed

/-!
# The order of entries

The order in which the entries of a mapping stand decides the order of findings and nothing else.

* `Value.Reordered` — values that differ in the order of entries of mappings only, at any depth;
* `Value.Reordered.simulation` — runs do not tell them apart;
* `Lint.runWith_reordered` — runs on such documents have the same findings, in some order.
-/

namespace ApiLint

open Outcome

namespace Value

/-- Values that differ in the order of entries of mappings only, at any depth. -/
inductive Reordered : Value → Value → Prop
  | scalar (s : Scalar) : Reordered (.scalar s) (.scalar s)
  | set (items : List Key) : Reordered (.set items) (.set items)
  | list {vs ws : List Value} (hItems : List.Forall₂ Reordered vs ws) :
    Reordered (.list vs) (.list ws)
  | tuple {vs ws : List Value} (hItems : List.Forall₂ Reordered vs ws) :
    Reordered (.tuple vs) (.tuple ws)
  /-- The entries are reordered after the values in them. -/
  | map {es gs fs : Entries} (hValues : List.Forall₂ (Entries.Parallel Reordered) es gs)
    (hPerm : gs.Perm fs) : Reordered (.map es) (.map fs)

mutual

theorem Reordered.refl (v : Value) : Reordered v v := by
  match v with
  | .scalar s => exact .scalar s
  | .set items => exact .set items
  | .list items => exact .list (Reordered.refl_items items)
  | .tuple items => exact .tuple (Reordered.refl_items items)
  | .map es => exact .map (Reordered.refl_entries es) (.refl es)

theorem Reordered.refl_items (vs : List Value) : List.Forall₂ Reordered vs vs := by
  match vs with
  | [] => exact .nil
  | v :: vs => exact .cons (Reordered.refl v) (Reordered.refl_items vs)

theorem Reordered.refl_entries (es : Entries) :
    List.Forall₂ (Entries.Parallel Reordered) es es := by
  match es with
  | [] => exact .nil
  | (k, v) :: es => exact .cons (.entry k (Reordered.refl v)) (Reordered.refl_entries es)

end

/-- The entries of one mapping in another order. -/
theorem Reordered.of_perm {es fs : Entries} (h : es.Perm fs) : Reordered (.map es) (.map fs) :=
  .map (Reordered.refl_entries es) h

-- ---------------------------------------------------------------------------
-- Texts
-- ---------------------------------------------------------------------------

theorem integersInEntries_eq_flatMap (es : Entries) :
    integersInEntries es = es.flatMap fun e => e.1.integers ++ e.2.integers := by
  induction es with
  | nil => rfl
  | cons e es ih => rw [integersInEntries, ih, List.flatMap_cons]

theorem integersInEntries_perm {es fs : Entries} (h : es.Perm fs) :
    (integersInEntries es).Perm (integersInEntries fs) := by
  rw [integersInEntries_eq_flatMap, integersInEntries_eq_flatMap]
  exact h.flatMap_right _

mutual

/-- Reordered values consist of the same integers. -/
theorem Reordered.integers {v w : Value} (h : Reordered v w) : v.integers.Perm w.integers := by
  match v, w, h with
  | _, _, .scalar s => exact .refl _
  | _, _, .set items => exact .refl _
  | .list vs, _, .list hItems => exact Reordered.integersIn hItems
  | .tuple vs, _, .tuple hItems => exact Reordered.integersIn hItems
  | .map es, _, .map hValues hPerm =>
    exact (Reordered.integersInEntries hValues).trans (integersInEntries_perm hPerm)

theorem Reordered.integersIn {vs ws : List Value} (h : List.Forall₂ Reordered vs ws) :
    (Value.integersIn vs).Perm (Value.integersIn ws) := by
  match vs, ws, h with
  | [], _, .nil => exact .refl _
  | v :: vs, _, .cons hHead hTail =>
    exact (Reordered.integers hHead).append (Reordered.integersIn hTail)

theorem Reordered.integersInEntries {es gs : Entries}
    (h : List.Forall₂ (Entries.Parallel Reordered) es gs) :
    (Value.integersInEntries es).Perm (Value.integersInEntries gs) := by
  match es, gs, h with
  | [], _, .nil => exact .refl _
  | (k, v) :: es, _, .cons (.entry _ hValue) hTail =>
    exact ((Reordered.integers hValue).append_left _).append (Reordered.integersInEntries hTail)

end

theorem Reordered.writable_iff {v w : Value} (h : Reordered v w) : v.Writable ↔ w.Writable := by
  rw [Writable, Writable, Decimal.AllShort, Decimal.AllShort]
  simp only [h.integers.mem_iff]

-- ---------------------------------------------------------------------------
-- Runs
-- ---------------------------------------------------------------------------

/-- Well-formed values and what they are when entries are reordered. -/
def Rearranged (v w : Value) : Prop := v.WellFormed ∧ Reordered v w

theorem rearranged_items {vs ws : List Value} (hWell : ∀ v ∈ vs, v.WellFormed)
    (hItems : List.Forall₂ Reordered vs ws) : List.Forall₂ Rearranged vs ws :=
  (List.forall₂_and_left vs ws).mpr ⟨hWell, hItems⟩

theorem rearranged_entries {es gs : Entries} (hWell : ∀ e ∈ es, e.2.WellFormed)
    (hValues : List.Forall₂ (Entries.Parallel Reordered) es gs) :
    List.Forall₂ (Entries.Parallel Rearranged) es gs := by
  induction hValues with
  | nil => exact .nil
  | cons hHead _ ih =>
    rw [List.forall_mem_cons] at hWell
    obtain ⟨hFirst, hRest⟩ := hWell
    cases hHead with
    | entry k hValue => exact .cons (.entry k ⟨hFirst, hValue⟩) (ih hRest)

/-- A mapping is rearranged in two steps: first the values of its entries, then the entries. -/
theorem Rearranged.entries {es fs : Entries} (h : Rearranged (.map es) (.map fs)) :
    ∃ gs : Entries, List.Forall₂ (Entries.Parallel Rearranged) es gs ∧ gs.Perm fs ∧
      gs.Distinct := by
  obtain ⟨hWell, hReordered⟩ := h
  obtain ⟨hDistinct, hParts⟩ := everyMap_map.mp hWell
  cases hReordered with
  | map hValues hPerm =>
    refine ⟨_, rearranged_entries hParts hValues, hPerm, ?_⟩
    rw [Entries.Distinct, ← Entries.keys_of_parallel hValues]
    exact hDistinct

theorem Rearranged.get?_rel {es fs : Entries} (h : Rearranged (.map es) (.map fs)) {key : Key}
    (hKey : key.Plain) : Option.Rel Rearranged (es.get? key) (fs.get? key) := by
  obtain ⟨gs, hValues, hPerm, hDistinct⟩ := h.entries
  rw [← Entries.get?_perm hPerm hDistinct hKey]
  exact Entries.get?_parallel hValues key

theorem rearranged_likeness : Likeness (fun _ => True) Rearranged where
  alike := by
    rintro v w ⟨hWell, hReordered⟩
    cases hReordered with
    | scalar s => exact .scalar s
    | set items => exact .set items
    | list hItems => exact .list (rearranged_items (everyMap_list.mp hWell) hItems)
    | tuple hItems => exact .tuple (rearranged_items (everyMap_tuple.mp hWell) hItems)
    | map => exact .map _ _
  scalar s := ⟨trivial, .scalar s⟩
  entry := by
    intro es fs segment h _
    apply Entries.rel_or (h.get?_rel (.str segment))
    cases Pointer.number? segment with
    | none => exact .none
    | some n => exact h.get?_rel (.int n)
  type := trivial
  required := trivial

/-- What is gathered from rearranged entries is the same in some order. -/
theorem Rearranged.matched {es fs : Entries} (h : Rearranged (.map es) (.map fs)) :
    Entries.Matched .unordered Rearranged es fs := by
  obtain ⟨gs, hValues, hPerm, -⟩ := h.entries
  constructor
  intro β f g hfg
  have hGather : Accord Comparison.unordered.Same (gather f es) (gather g gs) := by
    apply accord_gather
    refine hValues.imp ?_
    rintro _ _ ⟨k, hValue⟩
    exact hfg _ _ rfl hValue
  exact hGather.trans (accord_gather_perm g hPerm) fun _ _ _ => List.Perm.trans

/-- Runs do not tell rearranged values apart. -/
theorem rearranged_simulation : Simulation .unordered (fun _ => True) Rearranged where
  toLikeness := rearranged_likeness
  words _ := trivial
  asked _ _ _ _ _ := trivial
  writable h := h.2.writable_iff
  entries := Rearranged.matched

end Value

namespace Lint

/-- **The order of entries carries no meaning.** Two documents are equal up to the order of entries
of mappings at any depth. Then a run on one completes exactly if a run on the other does, and they
have the same errors and the same warnings, as often as each other, in some order. -/
theorem runWith_reordered {document document' : Entries}
    (hDistinct : (Value.map document).WellFormed)
    (hReordered : Value.Reordered (.map document) (.map document')) (settings : Settings) :
    (Completes (runWith document settings) ↔ Completes (runWith document' settings)) ∧
      ∀ found found', runWith document settings = .ok found →
        runWith document' settings = .ok found' →
        found.errors.Perm found'.errors ∧ found.warnings.Perm found'.warnings := by
  have hRun := Value.rearranged_simulation.runWith ⟨hDistinct, hReordered⟩ settings
  exact ⟨hRun.completes_iff, fun _ _ => hRun.of_ok⟩

/-- Two answers that are arrays, one of them described elsewhere under a number. -/
def answersInOrder : Entries := [
  (.int 200, .map [(.str "schema", .map [(.str "type", .str "array")])]),
  (.str "default", .map [(.str "schema", .map [(.str Reference.key, .str "#/definitions/1")])])]

/-- A document with two operations. The summary of one of them is a list of a mapping. -/
def documentInOrder : Entries := [
  (.str "paths", .map [
    (.str "/pets", .map [
      (.str "get", .map [(.str "responses", .map answersInOrder)]),
      (.str "head", .map [(.str "summary", .list [.map [(.int 1, .null), (.int 2, .null)]])])])]),
  (.str "definitions", .map [
    (.int 1, .map [(.str "type", .str "array"), (.str "items", .null)]), (.str "2", .null)])]

/-- The same document with most entries in reverse order. -/
def documentInReverse : Entries := [
  (.str "definitions", .map [
    (.str "2", .null), (.int 1, .map [(.str "items", .null), (.str "type", .str "array")])]),
  (.str "paths", .map [
    (.str "/pets", .map [
      (.str "head", .map [(.str "summary", .list [.map [(.int 2, .null), (.int 1, .null)]])]),
      (.str "get", .map [(.str "responses", .map answersInOrder.reverse)])])])]

theorem documentInOrder_wellFormed : (Value.map documentInOrder).WellFormed := by
  simp only [Value.WellFormed, documentInOrder, answersInOrder, Value.EveryMap, Value.EveryMapIn,
    Value.EveryMapInEntries, and_true]
  and_intros
  all_goals exact Entries.Distinct.of_ofPairs rfl

theorem documentInOrder_reordered :
    Value.Reordered (.map documentInOrder) (.map documentInReverse) := by
  have hGet : Value.Reordered (.map [(.str "responses", .map answersInOrder)])
      (.map [(.str "responses", .map answersInOrder.reverse)]) :=
    .map (.cons (.entry _ (.of_perm (List.reverse_perm _).symm)) .nil) (.refl _)
  have hHead : Value.Reordered
      (.map [(.str "summary", .list [.map [(.int 1, .null), (.int 2, .null)]])])
      (.map [(.str "summary", .list [.map [(.int 2, .null), (.int 1, .null)]])]) :=
    .map (.cons (.entry _ (.list (.cons (.of_perm (.swap _ _ _)) .nil))) .nil) (.refl _)
  have hPets := Value.Reordered.map (.cons (.entry (.str "get") hGet)
    (.cons (.entry (.str "head") hHead) .nil)) (.swap _ _ _)
  have hPaths := Value.Reordered.map (.cons (.entry (.str "/pets") hPets) .nil) (.refl _)
  have hOne : Value.Reordered (.map [(.str "type", .str "array"), (.str "items", .null)])
      (.map [(.str "items", .null), (.str "type", .str "array")]) :=
    .of_perm (.swap _ _ _)
  have hDefinitions := Value.Reordered.map (.cons (.entry (.int 1) hOne)
    (.cons (.entry (.str "2") (.refl .null)) .nil)) (.swap _ _ _)
  exact .map (.cons (.entry (.str "paths") hPaths)
    (.cons (.entry (.str "definitions") hDefinitions) .nil)) (.swap _ _ _)

def foundInOrder : Findings where
  errors := [
    ⟨"paths./pets.get.produces", Rule.produces.message⟩,
    ⟨"paths./pets.get.responses.200.schema", Rule.arrayResponse.message⟩,
    ⟨"paths./pets.get.responses.default.schema", Rule.arrayResponse.message⟩]
  warnings := [
    ⟨"paths./pets.get.operationId", Rule.operationId.message⟩,
    ⟨"paths./pets.get.summary", Rule.summary.message⟩,
    ⟨"paths./pets.head.operationId", Rule.operationId.message⟩]

def foundInReverse : Findings where
  errors := [
    ⟨"paths./pets.get.produces", Rule.produces.message⟩,
    ⟨"paths./pets.get.responses.default.schema", Rule.arrayResponse.message⟩,
    ⟨"paths./pets.get.responses.200.schema", Rule.arrayResponse.message⟩]
  warnings := [
    ⟨"paths./pets.head.operationId", Rule.operationId.message⟩,
    ⟨"paths./pets.get.operationId", Rule.operationId.message⟩,
    ⟨"paths./pets.get.summary", Rule.summary.message⟩]

theorem runWith_reordered_reverse :
    runWith documentInOrder (.model .default) = .ok foundInOrder ∧
      runWith documentInReverse (.model .default) = .ok foundInReverse ∧
      foundInOrder.errors.Perm foundInReverse.errors ∧
      foundInOrder.warnings.Perm foundInReverse.warnings := by
  have hOrder : runWith documentInOrder (.model .default) = .ok foundInOrder := by
    decide +kernel
  have hReverse : runWith documentInReverse (.model .default) = .ok foundInReverse := by
    decide +kernel
  obtain ⟨-, hSame⟩ := runWith_reordered documentInOrder_wellFormed documentInOrder_reordered
    (.model .default)
  exact ⟨hOrder, hReverse, hSame _ _ hOrder hReverse⟩

end Lint

end ApiLint
