import ApiLint.Proofs.Outcome

/-!
# Values that have a text

A text of a value spells out every integer in it, at any depth, and an integer with too many digits
is not converted. Nothing else stands in the way of a text:

* `Value.completes_literal`, `Value.completes_text` — a value has a text exactly if it is
  `Writable`: all integers in it have no more digits than are converted;
* `Presence.completes_of` — the presence of a value is known under the same condition, although a
  list is not written as a whole there but item by item.
-/

namespace ApiLint

open Outcome

-- ---------------------------------------------------------------------------
-- Integers in a value
-- ---------------------------------------------------------------------------

/-- The integer that a scalar is, if it is one. -/
def Scalar.integers : Scalar → List Int
  | .int n => [n]
  | _ => []

mutual

/-- The integers in a key. -/
def Key.integers : Key → List Int
  | .scalar s => s.integers
  | .tuple items => Key.integersIn items

/-- The integers in some keys. -/
def Key.integersIn : List Key → List Int
  | [] => []
  | k :: ks => k.integers ++ Key.integersIn ks

end

mutual

/-- The integers in a value, at any depth, those in keys included. -/
def Value.integers : Value → List Int
  | .scalar s => s.integers
  | .list items => Value.integersIn items
  | .tuple items => Value.integersIn items
  | .set items => Key.integersIn items
  | .map entries => Value.integersInEntries entries

/-- The integers in some values. -/
def Value.integersIn : List Value → List Int
  | [] => []
  | v :: vs => v.integers ++ Value.integersIn vs

/-- The integers in some entries. -/
def Value.integersInEntries : List (Key × Value) → List Int
  | [] => []
  | (k, v) :: es => k.integers ++ v.integers ++ Value.integersInEntries es

end

/-- Whether integers have no more digits than are converted. -/
def Decimal.AllShort (ns : List Int) : Prop := ∀ n ∈ ns, n.natAbs < Nat.pow 10 Fault.digitLimit

/-- Whether all integers in a key have a text. -/
def Key.Writable (k : Key) : Prop := Decimal.AllShort k.integers

/-- Whether all integers in a value have a text. -/
def Value.Writable (v : Value) : Prop := Decimal.AllShort v.integers

namespace Decimal

@[simp] theorem allShort_nil : AllShort [] := by
  intro n hn
  cases hn

@[simp] theorem allShort_append {ms ns : List Int} :
    AllShort (ms ++ ns) ↔ AllShort ms ∧ AllShort ns :=
  List.forall_mem_append

theorem completes_integerText (n : Int) : Completes (integerText n) ↔ AllShort [n] := by
  rw [AllShort, List.forall_mem_singleton, integerText]
  split
  · next h => exact ⟨fun _ => h, fun _ => completes_ok _⟩
  · next h =>
    exact ⟨fun hText => absurd hText (not_completes_error _), fun hShort => absurd hShort h⟩

end Decimal

-- ---------------------------------------------------------------------------
-- Texts
-- ---------------------------------------------------------------------------

theorem Scalar.completes_literal (s : Scalar) :
    Completes s.literal ↔ Decimal.AllShort s.integers := by
  cases s with
  | int n => exact Decimal.completes_integerText n
  | _ => simp [literal, integers]

theorem Scalar.completes_text (s : Scalar) :
    Completes s.text ↔ Decimal.AllShort s.integers := by
  cases s with
  | int n => exact Decimal.completes_integerText n
  | _ => simp [text, literal, integers]

mutual

theorem Key.completes_literal (k : Key) :
    Completes k.literal ↔ Decimal.AllShort k.integers := by
  cases k with
  | scalar s => exact s.completes_literal
  | tuple items =>
    rw [Key.literal, bind_pure_comp, completes_map]
    exact Key.completes_literals items

theorem Key.completes_literals (ks : List Key) :
    Completes (Key.literals ks) ↔ Decimal.AllShort (Key.integersIn ks) := by
  cases ks with
  | nil => simp [Key.literals, Key.integersIn]
  | cons k ks =>
    rw [Key.literals, Key.integersIn, Decimal.allShort_append, ← Key.completes_literal k,
      ← Key.completes_literals ks]
    exact completes_both

end

theorem Key.completes_text (k : Key) : Completes k.text ↔ k.Writable := by
  cases k with
  | scalar s => exact s.completes_text
  | tuple items => exact Key.completes_literal _

mutual

theorem Value.completes_literal (v : Value) :
    Completes v.literal ↔ Decimal.AllShort v.integers := by
  cases v with
  | scalar s => exact s.completes_literal
  | list items =>
    rw [Value.literal, bind_pure_comp, completes_map]
    exact Value.completes_literals items
  | tuple items =>
    rw [Value.literal, bind_pure_comp, completes_map]
    exact Value.completes_literals items
  | set items =>
    cases items with
    | nil => simp [Value.literal, Value.integers, Key.integersIn]
    | cons k ks =>
      show Completes (_ >>= fun _ => pure _) ↔ _
      rw [bind_pure_comp, completes_map]
      exact Key.completes_literals (k :: ks)
  | map entries =>
    rw [Value.literal, bind_pure_comp, completes_map]
    exact Value.completes_entryLiterals entries

theorem Value.completes_literals (vs : List Value) :
    Completes (Value.literals vs) ↔ Decimal.AllShort (Value.integersIn vs) := by
  cases vs with
  | nil => simp [Value.literals, Value.integersIn]
  | cons v vs =>
    rw [Value.literals, Value.integersIn, Decimal.allShort_append, ← Value.completes_literal v,
      ← Value.completes_literals vs]
    exact completes_both

theorem Value.completes_entryLiterals (es : List (Key × Value)) :
    Completes (Value.entryLiterals es) ↔ Decimal.AllShort (Value.integersInEntries es) := by
  match es with
  | [] => simp [Value.entryLiterals, Value.integersInEntries]
  | (k, v) :: es =>
    rw [Value.entryLiterals, Value.integersInEntries, Decimal.allShort_append,
      Decimal.allShort_append, ← k.completes_literal, ← Value.completes_literal v,
      ← Value.completes_entryLiterals es, and_assoc, completes_bind]
    constructor
    · rintro ⟨key, hKey, h⟩
      exact ⟨⟨key, hKey⟩, completes_both.mp h⟩
    · rintro ⟨⟨key, hKey⟩, h⟩
      exact ⟨key, hKey, completes_both.mpr h⟩

end

/-- A value has a text exactly if no integer in it is too long. -/
theorem Value.completes_text (v : Value) : Completes v.text ↔ v.Writable := by
  cases v with
  | scalar s => exact s.completes_text
  | _ => exact Value.completes_literal _

-- ---------------------------------------------------------------------------
-- Presence
-- ---------------------------------------------------------------------------

namespace Presence

theorem completes_itemText (v : Value) : Completes (itemText v) ↔ v.Writable := by
  rw [← v.completes_text]
  unfold itemText
  split
  · exact ⟨fun _ => completes_ok "None", fun _ => completes_ok ""⟩
  · exact Iff.rfl

theorem completes_itemTexts (items : List Value) :
    Completes (items.mapM itemText) ↔ Decimal.AllShort (Value.integersIn items) := by
  rw [completes_mapM]
  induction items with
  | nil => simp [Value.integersIn]
  | cons v vs ih =>
    rw [List.forall_mem_cons, ih, completes_itemText, Value.integersIn, Decimal.allShort_append]
    exact Iff.rfl

/-- The items of a sequence are written one by one, which makes no difference to completion. -/
theorem completes_content (v : Value) : Completes (content v) ↔ v.Writable := by
  unfold content
  cases v with
  | list items =>
    show Completes (_ >>= fun texts => pure (String.join texts)) ↔ _
    rw [bind_pure_comp, completes_map]
    exact completes_itemTexts items
  | tuple items =>
    show Completes (_ >>= fun texts => pure (String.join texts)) ↔ _
    rw [bind_pure_comp, completes_map]
    exact completes_itemTexts items
  | _ => exact Value.completes_text _

theorem completes_of (v : Value) : Completes (of v) ↔ v.Writable := by
  unfold of
  split
  · exact ⟨fun _ => Decimal.allShort_nil, fun _ => completes_ok _⟩
  · rw [bind_pure_comp, completes_map]
    exact completes_content v

end Presence

end ApiLint
