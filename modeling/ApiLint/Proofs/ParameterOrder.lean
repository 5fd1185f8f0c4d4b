import ApiLint.Proofs.Completion
import ApiLint.Proofs.Locator

/-!
# The order of parameters

The rule passes over the parameters of an operation once and remembers no more than whether it has
met an optional one. What it reports can be said without a passage, parameter by parameter: a
required one is late if an optional one comes before it. A parameter that stands for null has a
position but is neither.

* `Parameter.Late`, `Parameter.RequiredFirst` — which parameters are out of order, and when none is;
* `Rule.mem_lateRequired` — what the passage reports from some position on;
* `Rule.check_parameterOrder` — what the rule reports in an operation.
-/

namespace ApiLint

open Outcome

/-- The items of a sequence other than a text. Those of a byte string are numbers. -/
def Value.elements? : Value → Option (List Value)
  | .list items => some items
  | .tuple items => some items
  | .bytes bs => some (bs.map fun b => .int b.toNat)
  | _ => none

namespace Parameter

/-- Whether a parameter is required: it is a mapping that says so with the truth value itself. -/
def Required (v : Value) : Prop :=
  ∃ es : Entries, v = .map es ∧ es.field? "required" = some (.bool true)

/-- Whether a parameter is there and not required. -/
def Optional (v : Value) : Prop := v ≠ .null ∧ ¬ Required v

/-- Whether the parameter at a position is required and comes after an optional one. -/
def Late (params : List Value) (i : Nat) : Prop :=
  ∃ v, params[i]? = some v ∧ Required v ∧ ∃ j < i, ∃ w, params[j]? = some w ∧ Optional w

/-- The parameters that are there. -/
def stated (params : List Value) : List Value :=
  params.filter fun v => !(Rule.appearance v).isNull

/-- Whether all required parameters come before all others, leaving out those that are not there. -/
def RequiredFirst (params : List Value) : Prop :=
  ∃ first others, stated params = first ++ others ∧ (∀ v ∈ first, Required v) ∧
    ∀ v ∈ others, ¬ Required v

-- ---------------------------------------------------------------------------
-- Single parameters
-- ---------------------------------------------------------------------------

theorem isNull_iff {v : Value} : (Rule.appearance v).isNull = true ↔ v = .null := by
  unfold Rule.appearance
  dsimp only
  split
  · simp
  · next hOther => simpa using hOther

theorem isRequired_iff {v : Value} : Rule.isRequired v = true ↔ Required v := by
  have hField : Rule.isRequired v = true ↔ v.field? "required" = some (.bool true) := by
    unfold Rule.isRequired
    split
    · next h => simp [h]
    · next hOther => simpa using hOther
  rw [hField]
  cases v with
  | map es => simp [Required, Value.field?]
  | _ => simp [Required, Value.field?]

theorem Required.ne_null {v : Value} (h : Required v) : v ≠ .null := by
  rintro rfl
  obtain ⟨es, hMap, -⟩ := h
  cases hMap

theorem not_optional_null : ¬ Optional .null := fun h => h.1 rfl

-- ---------------------------------------------------------------------------
-- Required parameters first
-- ---------------------------------------------------------------------------

/-- A property that no element has after one without it holds of a front part and of no element of
the rest. -/
theorem pairwise_iff_split {α : Type} {p : α → Prop} {l : List α} :
    l.Pairwise (fun x y => p y → p x) ↔
      ∃ front back, l = front ++ back ∧ (∀ x ∈ front, p x) ∧ ∀ x ∈ back, ¬ p x := by
  constructor
  · intro h
    induction l with
    | nil => exact ⟨[], [], rfl, by simp, by simp⟩
    | cons x xs ih =>
      obtain ⟨hHead, hTail⟩ := List.pairwise_cons.mp h
      by_cases hx : p x
      · obtain ⟨front, back, rfl, hFront, hBack⟩ := ih hTail
        exact ⟨x :: front, back, rfl, List.forall_mem_cons.mpr ⟨hx, hFront⟩, hBack⟩
      · refine ⟨[], x :: xs, rfl, by simp, List.forall_mem_cons.mpr ⟨hx, ?_⟩⟩
        intro y hy hyp
        exact hx (hHead y hy hyp)
  · rintro ⟨front, back, rfl, hFront, hBack⟩
    refine List.pairwise_append.mpr ⟨?_, ?_, ?_⟩
    · exact List.pairwise_of_forall_mem_list fun x hx y hy _ => hFront x hx
    · exact List.pairwise_of_forall_mem_list fun x hx y hy hyp => absurd hyp (hBack y hy)
    · exact fun x hx y hy _ => hFront x hx

theorem not_late_iff_pairwise {params : List Value} :
    (∀ i, ¬ Late params i) ↔ params.Pairwise fun w v => Optional w → ¬ Required v := by
  rw [List.pairwise_iff_getElem]
  constructor
  · intro h j i hj hi hLess hOptional hRequired
    exact h i ⟨params[i], List.getElem?_eq_getElem hi, hRequired, j, hLess, params[j],
      List.getElem?_eq_getElem hj, hOptional⟩
  · rintro h i ⟨v, hv, hRequired, j, hLess, w, hw, hOptional⟩
    obtain ⟨hi, rfl⟩ := List.getElem?_eq_some_iff.mp hv
    obtain ⟨hj, rfl⟩ := List.getElem?_eq_some_iff.mp hw
    exact h j i hj hi hLess hOptional hRequired

/-- Required parameters come first exactly if none of them is late. -/
theorem requiredFirst_iff {params : List Value} :
    RequiredFirst params ↔ ∀ i, ¬ Late params i := by
  rw [RequiredFirst, ← pairwise_iff_split, stated, List.pairwise_filter, not_late_iff_pairwise]
  have hPair : ∀ w v : Value,
      ((!(Rule.appearance w).isNull) = true → (!(Rule.appearance v).isNull) = true →
        Required v → Required w) ↔ (Optional w → ¬ Required v) := by
    intro w v
    have hNull : v = .null → ¬ Required v := fun h hRequired => hRequired.ne_null h
    simp only [Bool.not_eq_true', ← Bool.not_eq_true, isNull_iff, Optional]
    tauto
  exact ⟨fun h => h.imp fun hw => (hPair _ _).mp hw, fun h => h.imp fun hw => (hPair _ _).mpr hw⟩

-- ---------------------------------------------------------------------------
-- Late parameters, seen from the middle of a passage
-- ---------------------------------------------------------------------------

/-- Whether the parameter at a position is late if an optional one may have been seen before. -/
def LateFrom (seen : Bool) (params : List Value) (k : Nat) : Prop :=
  ∃ v, params[k]? = some v ∧ Required v ∧
    (seen = true ∨ ∃ j < k, ∃ w, params[j]? = some w ∧ Optional w)

variable {seen : Bool} {v : Value} {vs : List Value} {k : Nat}

theorem lateFrom_false {params : List Value} : LateFrom false params k ↔ Late params k := by
  simp [LateFrom, Late]

theorem lateFrom_zero : LateFrom seen (v :: vs) 0 ↔ Required v ∧ seen = true := by
  simp [LateFrom]

/-- What comes after an optional parameter is late if it is required. -/
theorem lateFrom_succ_of_optional (h : Optional v) :
    LateFrom seen (v :: vs) (k + 1) ↔ LateFrom true vs k := by
  have hSeen : ∃ j < k + 1, ∃ w, (v :: vs)[j]? = some w ∧ Optional w :=
    ⟨0, Nat.succ_pos k, v, rfl, h⟩
  simp only [LateFrom, List.getElem?_cons_succ, hSeen, or_true, true_or]

/-- Any other parameter makes no difference to those that come after it. -/
theorem lateFrom_succ_of_not_optional (h : ¬ Optional v) :
    LateFrom seen (v :: vs) (k + 1) ↔ LateFrom seen vs k := by
  have hBefore : (∃ j < k + 1, ∃ w, (v :: vs)[j]? = some w ∧ Optional w) ↔
      ∃ j < k, ∃ w, vs[j]? = some w ∧ Optional w := by
    constructor
    · rintro ⟨j, hj, w, hw, hOptional⟩
      cases j with
      | zero =>
        cases hw
        exact absurd hOptional h
      | succ j => exact ⟨j, by omega, w, hw, hOptional⟩
    · rintro ⟨j, hj, w, hw, hOptional⟩
      exact ⟨j + 1, by omega, w, hw, hOptional⟩
  simp only [LateFrom, List.getElem?_cons_succ, hBefore]

end Parameter

namespace Rule

open Parameter

-- ---------------------------------------------------------------------------
-- The passage
-- ---------------------------------------------------------------------------

/-- One step of the passage, by the value that a parameter stands for. -/
theorem lateRequired_step {document raw v : Value} (h : Reference.resolve raw document = .ok v)
    (seen : Bool) (start : Nat) (rest : List Value) :
    lateRequired document seen start (raw :: rest) =
      if (appearance v).isNull then lateRequired document seen (start + 1) rest
      else if isRequired v then (do
        let later ← lateRequired document seen (start + 1) rest
        return if seen then start :: later else later)
      else lateRequired document true (start + 1) rest := by
  rw [lateRequired_cons, look, h]
  rfl

/-- A position counted from `start` is the first one or counted from the next one. -/
theorem exists_position_iff {i start : Nat} {p : Nat → Prop} :
    (∃ k, i = start + k ∧ p k) ↔ (i = start ∧ p 0) ∨ ∃ k, i = start + 1 + k ∧ p (k + 1) := by
  constructor
  · rintro ⟨k, hk, hp⟩
    cases k with
    | zero => exact .inl ⟨hk, hp⟩
    | succ k => exact .inr ⟨k, by omega, hp⟩
  · rintro (⟨hk, hp⟩ | ⟨k, hk, hp⟩)
    · exact ⟨0, hk, hp⟩
    · exact ⟨k + 1, by omega, hp⟩

/-- From any position on the passage reports the late parameters, where an optional parameter that
has been met before counts. -/
theorem mem_lateRequired {document : Value} {items params : List Value} {seen : Bool} {start : Nat}
    {positions : List Nat}
    (hParams : items.mapM (fun raw => Reference.resolve raw document) = .ok params)
    (h : lateRequired document seen start items = .ok positions) (i : Nat) :
    i ∈ positions ↔ ∃ k, i = start + k ∧ LateFrom seen params k := by
  induction items generalizing params seen start positions with
  | nil =>
    cases hParams
    cases h
    simp [LateFrom]
  | cons raw rest ih =>
    rw [List.mapM_cons] at hParams
    obtain ⟨v, hv, hParams⟩ := bind_eq_ok.mp hParams
    obtain ⟨vs, hvs, hParams⟩ := bind_eq_ok.mp hParams
    cases hParams
    rw [lateRequired_step hv] at h
    rw [exists_position_iff, lateFrom_zero]
    split at h
    · next hNull =>
      rw [isNull_iff] at hNull
      subst hNull
      have hNot : ¬ Required .null := fun hRequired => hRequired.ne_null rfl
      simp only [lateFrom_succ_of_not_optional not_optional_null, ← ih hvs h, hNot, false_and,
        and_false, false_or]
    · next hNull =>
      rw [isNull_iff] at hNull
      split at h
      · next hRequired =>
        rw [isRequired_iff] at hRequired
        have hNot : ¬ Optional v := fun hOptional => hOptional.2 hRequired
        obtain ⟨later, hLater, h⟩ := bind_eq_ok.mp h
        cases h
        simp only [lateFrom_succ_of_not_optional hNot, ← ih hvs hLater, hRequired, true_and]
        cases seen with
        | true => simp
        | false => simp
      · next hRequired =>
        rw [isRequired_iff] at hRequired
        simp only [lateFrom_succ_of_optional ⟨hNull, hRequired⟩, ← ih hvs h, hRequired, false_and,
          and_false, false_or]

/-- Numbers are no references and not required. -/
theorem lateRequired_numbers (document : Value) (seen : Bool) (start : Nat) (ns : List Int) :
    lateRequired document seen start (ns.map fun n => .int n) = .ok [] := by
  induction ns generalizing seen start with
  | nil => rfl
  | cons n ns ih =>
    have hNumber : Reference.resolve (.int n) document = .ok (.int n) := rfl
    rw [List.map_cons, lateRequired_step hNumber]
    exact ih true (start + 1)

/-- The rule looks at the items of any sequence other than a text. It passes over byte strings, in
whose items it would find nothing. -/
theorem places_of_elements {op : Operation} {items : List Value}
    (h : (op.fields.field? "parameters").bind Value.elements? = some items) (document : Entries) :
    parameterOrder.places document op =
      List.map (fun i => op.place ["parameters"] ++ "[" ++ Decimal.ofNat i ++ "]") <$>
        lateRequired (.map document) false 0 items := by
  obtain ⟨v, hField, hItems⟩ := Option.bind_eq_some_iff.mp h
  have hSequence : v.items? = some items → op.parameters = items := by
    intro hSequence
    rw [Operation.parameters, hField, Option.bind_some, hSequence, Option.getD_some]
  rw [places_parameterOrder]
  cases v with
  | list items' => rw [hSequence hItems]
  | tuple items' => rw [hSequence hItems]
  | scalar s =>
    cases s with
    | bytes bs =>
      have hNumbers : items = (bs.map fun b => (b.toNat : Int)).map fun n => .int n := by
        rw [List.map_map]
        exact (Option.some.inj hItems).symm
      have hNone : op.parameters = [] := by
        rw [Operation.parameters, hField]
        rfl
      rw [hNone, hNumbers, lateRequired_numbers]
      rfl
    | _ => cases hItems
  | _ => cases hItems

-- ---------------------------------------------------------------------------
-- What is reported
-- ---------------------------------------------------------------------------

/-- What is reported of a parameter that is late. -/
def lateFinding (op : Operation) (i : Nat) : Finding :=
  ⟨op.place ["parameters"] ++ "[" ++ Decimal.ofNat i ++ "]", parameterOrder.message⟩

/-- Different parameters are reported at different places. -/
theorem lateFinding_injective (op : Operation) : Function.Injective (lateFinding op) := by
  intro i j h
  have hPath := congrArg (fun f => f.path.toList) h
  simp only [lateFinding, String.toList_append, List.append_cancel_right_eq,
    List.append_cancel_left_eq] at hPath
  exact Decimal.ofNat_injective (String.toList_injective hPath)

/-- **The rule reports exactly the required parameters that are late.** The parameters of an
operation are a sequence other than a text, and all of them can be followed by one hop. Then the
rule reports a position exactly if what the parameter there stands for is late, each position once
and in ascending order, and it reports none exactly if required parameters come first. -/
theorem check_parameterOrder {document : Entries} {op : Operation} {items : List Value}
    (hItems : (op.fields.field? "parameters").bind Value.elements? = some items)
    (hFollow : ∀ item ∈ items, Completes (Reference.resolve item (.map document))) :
    ∃ params positions,
      items.mapM (fun item => Reference.resolve item (.map document)) = .ok params ∧
      parameterOrder.check document op = .ok (positions.map (lateFinding op)) ∧
      positions.Pairwise (· < ·) ∧
      (∀ i, i ∈ positions ↔ Late params i) ∧
      (positions = [] ↔ RequiredFirst params) := by
  obtain ⟨params, hParams⟩ := completes_mapM.mpr hFollow
  have hFollowable : ∀ item ∈ items, Reference.Followable document item := by
    intro item hItem
    exact Reference.completes_resolve.mp (hFollow item hItem)
  obtain ⟨positions, hPositions⟩ := (completes_lateRequired false 0).mpr hFollowable
  have hMem : ∀ i, i ∈ positions ↔ Late params i := by
    intro i
    rw [mem_lateRequired hParams hPositions]
    simp [lateFrom_false]
  refine ⟨params, positions, hParams, ?_, (lateRequired_sorted hPositions).1, hMem, ?_⟩
  · rw [Lint.check_eq_map, places_of_elements hItems, hPositions]
    exact congrArg Except.ok List.map_map
  · rw [requiredFirst_iff, List.eq_nil_iff_forall_not_mem]
    simp only [hMem]

/-- Parameters of every kind: required ones, given inline and by reference, an external reference, a
number, null and a reference to a place that does not exist. -/
def mixedParameters : List Value := [
  .map [(.str Reference.key, .str "#/parameters/0")],
  .map [(.str "required", .bool true)],
  .map [(.str Reference.key, .str "#/parameters/1")],
  .map [(.str Reference.key, .str "pets.yaml#/id")],
  .null,
  .map [(.str "required", .bool true)],
  .int 1,
  .map [(.str Reference.key, .str "#/parameters/0")],
  .map [(.str "required", .int 1)]]

/-- A document with one required parameter to point to. -/
def mixedDocument : Entries := [
  (.str "parameters", .list [.map [(.str "in", .str "path"), (.str "required", .bool true)]])]

/-- An operation with these parameters. -/
def mixedOperation : Operation where
  path := "/pets"
  method := "put"
  fields := [(.str "parameters", .list mixedParameters)]
  pathIndex := 0
  methodIndex := 0

theorem check_parameterOrder_mixed :
    (mixedOperation.fields.field? "parameters").bind Value.elements? = some mixedParameters ∧
      ∃ params,
      mixedParameters.mapM (fun item => Reference.resolve item (.map mixedDocument)) = .ok params ∧
      parameterOrder.check mixedDocument mixedOperation = .ok [
        ⟨"paths./pets.put.parameters[5]", parameterOrder.message⟩,
        ⟨"paths./pets.put.parameters[7]", parameterOrder.message⟩] ∧
      Late params 5 ∧ Late params 7 ∧ ¬ Late params 2 ∧ ¬ RequiredFirst params := by
  have hFollow : ∀ item ∈ mixedParameters,
      Completes (Reference.resolve item (.map mixedDocument)) := by
    decide +kernel
  have hFound : parameterOrder.check mixedDocument mixedOperation = .ok [
      ⟨"paths./pets.put.parameters[5]", parameterOrder.message⟩,
      ⟨"paths./pets.put.parameters[7]", parameterOrder.message⟩] := by
    decide +kernel
  have hItems : (mixedOperation.fields.field? "parameters").bind Value.elements? =
      some mixedParameters := rfl
  obtain ⟨params, positions, hParams, hCheck, -, hLate, hFirst⟩ :=
    check_parameterOrder hItems hFollow
  have hPositions : positions = [5, 7] := by
    have hFindings : [5, 7].map (lateFinding mixedOperation) =
        positions.map (lateFinding mixedOperation) :=
      Except.ok.inj (hFound.symm.trans hCheck)
    exact ((List.map_injective_iff.mpr (lateFinding_injective mixedOperation)) hFindings).symm
  subst hPositions
  refine ⟨hItems, params, hParams, hFound, (hLate 5).mp (by simp), (hLate 7).mp (by simp), ?_, ?_⟩
  · exact fun h => absurd ((hLate 2).mpr h) (by simp)
  · exact fun h => absurd (hFirst.mpr h) (by simp)

end Rule

end ApiLint
