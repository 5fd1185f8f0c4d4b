import ApiLint.Proofs.Digits
import ApiLint.Proofs.Outcome
import ApiLint.Reference

/-!
# Walks along pointers

A walk takes one segment of a pointer after the other. `Step` says which part of a value a segment
names, and `Chain` what stands at the end of several segments; neither knows of a limit to the
digits of a segment. The walk itself converts every segment of digits that it reaches.

* `walk_eq_some` — a walk that finds something has followed a chain;
* `completes_walk` — a walk completes exactly if no segment that it reaches has too many digits;
* `Reference.resolve_of_pointer`, `Reference.resolve_of_no_pointer` — a reference into the document
  is a walk, and any other node stands for the same value in all documents.
-/

namespace ApiLint

open Outcome

namespace Pointer

-- ---------------------------------------------------------------------------
-- Numbers in segments
-- ---------------------------------------------------------------------------

/-- A segment that consists of ASCII digits. -/
def IsNumeral (segment : String) : Prop :=
  segment.toList ≠ [] ∧ ∀ c ∈ segment.toList, Decimal.isDigit c = true

theorem isNumeral_iff {segment : String} :
    IsNumeral segment ↔
      (!segment.toList.isEmpty && segment.toList.all Decimal.isDigit) = true := by
  simp [IsNumeral]

instance : DecidablePred IsNumeral := fun _ => decidable_of_iff _ isNumeral_iff.symm

/-- A segment of more digits than are converted. -/
def Overlong (segment : String) : Prop :=
  IsNumeral segment ∧ Fault.digitLimit < segment.length

instance : DecidablePred Overlong := fun segment =>
  inferInstanceAs (Decidable (IsNumeral segment ∧ Fault.digitLimit < segment.length))

/-- The number that a segment spells, whatever its length. -/
def number? (segment : String) : Option Nat :=
  if IsNumeral segment then some (Decimal.value segment.toList) else none

theorem isNumeral_ofNat (n : Nat) : IsNumeral (Decimal.ofNat n) := by
  rw [IsNumeral, Decimal.toList_ofNat]
  refine ⟨Decimal.digits_ne_nil n, ?_⟩
  intro c hc
  exact Decimal.isDigit_of_mem_digits hc

/-- The text of a number spells the number. -/
theorem number?_ofNat (n : Nat) : number? (Decimal.ofNat n) = some n := by
  rw [number?, if_pos (isNumeral_ofNat n), Decimal.toList_ofNat, Decimal.value_digits]

theorem index?_of_overlong {segment : String} (h : Overlong segment) :
    index? segment = .error (.numeralTooLong segment.length) := by
  rw [index?, if_pos (isNumeral_iff.mp h.1), Decimal.numeral, String.length_toList,
    if_neg (Nat.not_le_of_lt h.2)]
  rfl

theorem index?_of_not_overlong {segment : String} (h : ¬ Overlong segment) :
    index? segment = .ok (number? segment) := by
  rw [index?, number?]
  by_cases hNumeral : IsNumeral segment
  · have hShort : segment.toList.length ≤ Fault.digitLimit := by
      rw [String.length_toList]
      exact Nat.le_of_not_lt fun hLong => h ⟨hNumeral, hLong⟩
    rw [if_pos (isNumeral_iff.mp hNumeral), if_pos hNumeral, Decimal.numeral, if_pos hShort]
    rfl
  · rw [if_neg (mt isNumeral_iff.mpr hNumeral), if_neg hNumeral]

-- ---------------------------------------------------------------------------
-- Steps and chains
-- ---------------------------------------------------------------------------

/-- The part of a value that a segment names. In a mapping the text of the segment comes before its
number. -/
inductive Step : Value → String → Value → Prop
  | name {entries : Entries} {segment : String} {part : Value}
      (hName : entries.field? segment = some part) : Step (.map entries) segment part
  | number {entries : Entries} {segment : String} {n : Nat} {part : Value}
      (hNumber : number? segment = some n) (hName : entries.field? segment = none)
      (hKey : entries.get? (.int n) = some part) : Step (.map entries) segment part
  | listItem {items : List Value} {segment : String} {n : Nat} {part : Value}
      (hNumber : number? segment = some n) (hItem : items[n]? = some part) :
      Step (.list items) segment part
  | tupleItem {items : List Value} {segment : String} {n : Nat} {part : Value}
      (hNumber : number? segment = some n) (hItem : items[n]? = some part) :
      Step (.tuple items) segment part
  | byte {bs : List UInt8} {segment : String} {n : Nat} {b : UInt8}
      (hNumber : number? segment = some n) (hByte : bs[n]? = some b) :
      Step (.bytes bs) segment (.int b.toNat)

/-- The value at the end of some segments, with one step for each of them. -/
inductive Chain : Value → List String → Value → Prop
  | nil (v : Value) : Chain v [] v
  | cons {v next target : Value} {segment : String} {rest : List String}
      (hStep : Step v segment next) (hRest : Chain next rest target) :
      Chain v (segment :: rest) target

theorem child?_eq_some {v part : Value} {segment : String} :
    child? v segment (number? segment) = some part ↔ Step v segment part := by
  constructor
  · intro h
    unfold child? at h
    split at h
    · next entries =>
      cases hName : Entries.field? entries segment with
      | some named =>
        rw [hName, Option.some_or] at h
        cases h
        exact .name hName
      | none =>
        rw [hName, Option.none_or] at h
        obtain ⟨n, hNumber, hKey⟩ := Option.bind_eq_some_iff.mp h
        exact .number hNumber hName hKey
    · obtain ⟨n, hNumber, hItem⟩ := Option.bind_eq_some_iff.mp h
      exact .listItem hNumber hItem
    · obtain ⟨n, hNumber, hItem⟩ := Option.bind_eq_some_iff.mp h
      exact .tupleItem hNumber hItem
    · obtain ⟨n, hNumber, hPart⟩ := Option.bind_eq_some_iff.mp h
      obtain ⟨b, hByte, rfl⟩ := Option.map_eq_some_iff.mp hPart
      exact .byte hNumber hByte
    · cases h
  · intro h
    cases h with
    | name hName => simp [child?, hName]
    | number hNumber hName hKey => simp [child?, hNumber, hName, hKey]
    | listItem hNumber hItem => simp [child?, hNumber, hItem]
    | tupleItem hNumber hItem => simp [child?, hNumber, hItem]
    | byte hNumber hByte => simp [child?, hNumber, hByte]

theorem child?_eq_none {v : Value} {segment : String} :
    child? v segment (number? segment) = none ↔ ∀ part, ¬ Step v segment part := by
  rw [Option.eq_none_iff_forall_ne_some]
  exact forall_congr' fun part => not_congr child?_eq_some

theorem Step.unique {v a b : Value} {segment : String} (ha : Step v segment a)
    (hb : Step v segment b) : a = b := by
  rw [← child?_eq_some] at ha hb
  rw [ha] at hb
  exact Option.some.inj hb

-- ---------------------------------------------------------------------------
-- Walks
-- ---------------------------------------------------------------------------

theorem step_of_overlong {segment : String} (h : Overlong segment) (v : Value) :
    step v segment = .error (.numeralTooLong segment.length) := by
  rw [step, index?_of_overlong h]
  rfl

theorem step_of_not_overlong {segment : String} (h : ¬ Overlong segment) (v : Value) :
    step v segment = .ok (child? v segment (number? segment)) := by
  rw [step, index?_of_not_overlong h]
  rfl

theorem walk_of_overlong {segment : String} (h : Overlong segment) (v : Value)
    (rest : List String) :
    walk v (segment :: rest) = .error (.numeralTooLong segment.length) := by
  rw [walk, step_of_overlong h]
  rfl

theorem walk_cons {segment : String} (h : ¬ Overlong segment) (v : Value) (rest : List String) :
    walk v (segment :: rest) =
      (child? v segment (number? segment)).elim (.ok none) fun next => walk next rest := by
  rw [walk, step_of_not_overlong h]
  cases child? v segment (number? segment) <;> rfl

theorem walk_of_step {v next : Value} {segment : String} (h : ¬ Overlong segment)
    (hStep : Step v segment next) (rest : List String) :
    walk v (segment :: rest) = walk next rest := by
  rw [walk_cons h, child?_eq_some.mpr hStep]
  rfl

theorem walk_of_miss {v : Value} {segment : String} (h : ¬ Overlong segment)
    (hMiss : ∀ next, ¬ Step v segment next) (rest : List String) :
    walk v (segment :: rest) = .ok none := by
  rw [walk_cons h, child?_eq_none.mpr hMiss]
  rfl

/-- A walk finds a value exactly if a chain leads there and no segment has too many digits. -/
theorem walk_eq_some {v target : Value} {segments : List String} :
    walk v segments = .ok (some target) ↔
      Chain v segments target ∧ ∀ segment ∈ segments, ¬ Overlong segment := by
  induction segments generalizing v with
  | nil =>
    constructor
    · intro h
      cases h
      refine ⟨.nil _, ?_⟩
      intro segment hSegment
      cases hSegment
    · rintro ⟨hChain, -⟩
      cases hChain
      rfl
  | cons segment rest ih =>
    rw [List.forall_mem_cons]
    by_cases hLong : Overlong segment
    · rw [walk_of_overlong hLong]
      constructor
      · intro h
        cases h
      · rintro ⟨-, hShort, -⟩
        exact absurd hLong hShort
    · constructor
      · intro h
        by_cases hStep : ∃ next, Step v segment next
        · obtain ⟨next, hStep⟩ := hStep
          rw [walk_of_step hLong hStep] at h
          obtain ⟨hChain, hShort⟩ := ih.mp h
          exact ⟨.cons hStep hChain, hLong, hShort⟩
        · rw [walk_of_miss hLong (not_exists.mp hStep)] at h
          cases h
      · rintro ⟨hChain, -, hShort⟩
        cases hChain with
        | cons hStep hChain =>
          rw [walk_of_step hLong hStep]
          exact ih.mpr ⟨hChain, hShort⟩

/-- No segment that is reached from a value has too many digits. -/
def Convertible (v : Value) (segments : List String) : Prop :=
  ∀ front segment back reached, segments = front ++ segment :: back →
    Chain v front reached → ¬ Overlong segment

theorem convertible_nil (v : Value) : Convertible v [] := by
  intro front segment back reached h
  simp at h

theorem convertible_cons {v : Value} {segment : String} {rest : List String} :
    Convertible v (segment :: rest) ↔
      ¬ Overlong segment ∧ ∀ next, Step v segment next → Convertible next rest := by
  constructor
  · intro h
    refine ⟨h [] segment rest v rfl (.nil v), ?_⟩
    intro next hStep front s back reached hRest hChain
    refine h (segment :: front) s back reached ?_ (.cons hStep hChain)
    rw [hRest, List.cons_append]
  · rintro ⟨hShort, hNext⟩ front s back reached hRest hChain
    cases hChain with
    | nil =>
      rw [List.nil_append, List.cons.injEq] at hRest
      exact hRest.1 ▸ hShort
    | cons hStep hChain =>
      rw [List.cons_append, List.cons.injEq] at hRest
      obtain ⟨rfl, hRest⟩ := hRest
      exact hNext _ hStep _ s back reached hRest hChain

/-- A walk completes exactly if no segment that it reaches has too many digits. -/
theorem completes_walk {v : Value} {segments : List String} :
    Completes (walk v segments) ↔ Convertible v segments := by
  induction segments generalizing v with
  | nil => exact ⟨fun _ => convertible_nil v, fun _ => completes_ok _⟩
  | cons segment rest ih =>
    rw [convertible_cons]
    by_cases hLong : Overlong segment
    · rw [walk_of_overlong hLong]
      exact ⟨fun h => absurd h (not_completes_error _), fun h => absurd hLong h.1⟩
    · by_cases hStep : ∃ next, Step v segment next
      · obtain ⟨next, hStep⟩ := hStep
        rw [walk_of_step hLong hStep, ih]
        constructor
        · intro h
          refine ⟨hLong, ?_⟩
          intro next' hStep'
          exact hStep.unique hStep' ▸ h
        · rintro ⟨-, h⟩
          exact h next hStep
      · have hMiss := not_exists.mp hStep
        rw [walk_of_miss hLong hMiss]
        exact ⟨fun _ => ⟨hLong, fun next h => absurd h (hMiss next)⟩, fun _ => completes_ok _⟩

-- ---------------------------------------------------------------------------
-- Lookup
-- ---------------------------------------------------------------------------

theorem lookup_eq_map (root : Value) (segments : List String) :
    lookup root segments = (fun found => found.getD .null) <$> walk root segments :=
  bind_pure_comp _ _

theorem completes_lookup {root : Value} {segments : List String} :
    Completes (lookup root segments) ↔ Convertible root segments := by
  rw [lookup_eq_map, completes_map, completes_walk]

theorem lookup_of_chain {root target : Value} {segments : List String}
    (hChain : Chain root segments target) (hShort : ∀ segment ∈ segments, ¬ Overlong segment) :
    lookup root segments = .ok target := by
  rw [lookup_eq_map, walk_eq_some.mpr ⟨hChain, hShort⟩]
  rfl

/-- What a lookup finds and is not null stands at the end of a chain. -/
theorem chain_of_lookup {root target : Value} {segments : List String}
    (h : lookup root segments = .ok target) (hTarget : target ≠ .null) :
    Chain root segments target := by
  rw [lookup_eq_map] at h
  obtain ⟨found, hWalk, hFound⟩ := map_eq_ok.mp h
  cases found with
  | none => exact absurd hFound.symm hTarget
  | some v =>
    cases hFound
    exact (walk_eq_some.mp hWalk).1

end Pointer

-- ---------------------------------------------------------------------------
-- References
-- ---------------------------------------------------------------------------

namespace Reference

/-- The pointer of a node that is a reference into the document. -/
def pointer? (node : Value) : Option String := (node.field? key).bind local?

theorem local?_eq_some {v : Value} {pointer : String} :
    local? v = some pointer ↔ v = .str pointer ∧ pointer.startsWith Pointer.marker = true := by
  unfold local?
  split
  · next s =>
    split
    · next h =>
      constructor
      · intro hs
        cases hs
        exact ⟨rfl, h⟩
      · rintro ⟨hs, -⟩
        cases hs
        rfl
    · next h =>
      constructor
      · intro hs
        cases hs
      · rintro ⟨hs, hp⟩
        cases hs
        exact absurd hp h
  · next h =>
    constructor
    · intro hs
      cases hs
    · rintro ⟨hs, -⟩
      exact absurd hs (h pointer)

theorem pointer?_eq_some {node : Value} {pointer : String} :
    pointer? node = some pointer ↔
      node.field? key = some (.str pointer) ∧ pointer.startsWith Pointer.marker = true := by
  rw [pointer?, Option.bind_eq_some_iff]
  constructor
  · rintro ⟨target, hTarget, h⟩
    obtain ⟨rfl, hMarker⟩ := local?_eq_some.mp h
    exact ⟨hTarget, hMarker⟩
  · rintro ⟨hTarget, hMarker⟩
    exact ⟨_, hTarget, local?_eq_some.mpr ⟨rfl, hMarker⟩⟩

theorem resolve_of_pointer {node : Value} {pointer : String} (h : pointer? node = some pointer)
    (document : Value) :
    resolve node document = Pointer.lookup document (Pointer.segments pointer) := by
  obtain ⟨target, hTarget, hLocal⟩ := Option.bind_eq_some_iff.mp h
  unfold resolve
  simp only [hTarget, hLocal]

/-- What is no reference into the document stands for the same value in all documents. -/
theorem resolve_of_no_pointer {node : Value} (h : pointer? node = none) :
    ∃ v, ∀ document, resolve node document = .ok v := by
  unfold resolve
  cases hTarget : node.field? key with
  | none => exact ⟨node, fun _ => rfl⟩
  | some target =>
    rw [pointer?, hTarget, Option.bind_some] at h
    exact ⟨.map [], fun _ => by simp only [h]⟩

theorem completes_resolve {node document : Value} :
    Completes (resolve node document) ↔
      ∀ pointer, pointer? node = some pointer →
        Pointer.Convertible document (Pointer.segments pointer) := by
  cases hPointer : pointer? node with
  | none =>
    obtain ⟨v, hv⟩ := resolve_of_no_pointer hPointer
    rw [hv]
    refine ⟨?_, fun _ => completes_ok v⟩
    intro _ pointer h
    cases h
  | some pointer =>
    rw [resolve_of_pointer hPointer, Pointer.completes_lookup]
    constructor
    · intro h p hp
      cases hp
      exact h
    · intro h
      exact h pointer rfl

end Reference

end ApiLint
