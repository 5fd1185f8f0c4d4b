import ApiLint.Proofs.Entries
import Mathlib.Data.List.Forall2
import Mathlib.Data.List.Perm.Basic

/-!
# Mappings in a value

A condition on mappings can be required of all mappings in a value, at any depth. One that holds of
every mapping that is built from pairs is that its keys are distinct: no text and no integer
addresses two of its entries.

* `Value.EveryMap` — all mappings in a value satisfy a condition;
* `Value.WellFormed` — the keys of all mappings in a value are distinct;
* `Entries.distinct_ofPairs` — pairs that are put in one after the other build distinct keys;
* `Entries.get?_perm` — with distinct keys a look-up does not depend on the order of entries.
-/

namespace ApiLint

-- ---------------------------------------------------------------------------
-- Every mapping
-- ---------------------------------------------------------------------------

namespace Value

variable (P : Entries → Prop)

mutual

/-- Whether all mappings in a value, at any depth, satisfy a condition. -/
def EveryMap : Value → Prop
  | .scalar _ => True
  | .set _ => True
  | .list items => EveryMapIn items
  | .tuple items => EveryMapIn items
  | .map entries => P entries ∧ EveryMapInEntries entries

/-- Whether all mappings in some values satisfy a condition. -/
def EveryMapIn : List Value → Prop
  | [] => True
  | v :: vs => EveryMap v ∧ EveryMapIn vs

/-- Whether all mappings in the values of some entries satisfy a condition. -/
def EveryMapInEntries : List (Key × Value) → Prop
  | [] => True
  | (_, v) :: es => EveryMap v ∧ EveryMapInEntries es

end

variable {P}

theorem everyMapIn_iff {vs : List Value} : EveryMapIn P vs ↔ ∀ v ∈ vs, EveryMap P v := by
  induction vs with
  | nil => simp [EveryMapIn]
  | cons v vs ih => rw [EveryMapIn, ih, List.forall_mem_cons]

theorem everyMapInEntries_iff {es : Entries} :
    EveryMapInEntries P es ↔ ∀ e ∈ es, EveryMap P e.2 := by
  induction es with
  | nil => simp [EveryMapInEntries]
  | cons e es ih => rw [EveryMapInEntries, ih, List.forall_mem_cons]

theorem everyMap_list {vs : List Value} : EveryMap P (.list vs) ↔ ∀ v ∈ vs, EveryMap P v := by
  rw [EveryMap, everyMapIn_iff]

theorem everyMap_tuple {vs : List Value} : EveryMap P (.tuple vs) ↔ ∀ v ∈ vs, EveryMap P v := by
  rw [EveryMap, everyMapIn_iff]

theorem everyMap_map {es : Entries} :
    EveryMap P (.map es) ↔ P es ∧ ∀ e ∈ es, EveryMap P e.2 := by
  rw [EveryMap, everyMapInEntries_iff]

/-- What is found in a mapping has no other mappings in it. -/
theorem EveryMap.of_field? {es : Entries} (h : EveryMap P (.map es)) {name : String} {v : Value}
    (hField : es.field? name = some v) : EveryMap P v := by
  obtain ⟨k, hMem⟩ := Entries.mem_of_get? hField
  exact (everyMap_map.mp h).2 (k, v) hMem

end Value

-- ---------------------------------------------------------------------------
-- Distinct keys
-- ---------------------------------------------------------------------------

namespace Key

/-- A key that can be asked for: a text or an integer. -/
inductive Plain : Key → Prop
  | str (s : String) : Plain (.str s)
  | int (n : Int) : Plain (.int n)

/-- Two keys that are never addressed together. -/
def Apart (a b : Key) : Prop := ∀ {key : Key}, key.Plain → key.same a = true → key.same b = false

theorem Apart.symm {a b : Key} (h : a.Apart b) : b.Apart a := by
  intro key hKey hb
  rw [Bool.eq_false_iff]
  intro ha
  rw [h hKey ha] at hb
  cases hb

theorem Apart.ne {s t : String} (h : (Key.str s).Apart (.str t)) : s ≠ t := by
  rintro rfl
  have hSame : (Key.str s).same (.str s) = true := same_str.mpr rfl
  rw [h (.str s) hSame] at hSame
  cases hSame

/-- Keys that are addressed together address each other. -/
theorem Plain.same {key a b : Key} (hKey : key.Plain) (ha : key.same a = true)
    (hb : key.same b = true) : b.same a = true := by
  have hScalar : ∃ s, key = .scalar s := by
    cases hKey with
    | str s => exact ⟨.str s, rfl⟩
    | int n => exact ⟨.int n, rfl⟩
  obtain ⟨s, rfl⟩ := hScalar
  cases a with
  | tuple _ => cases ha
  | scalar a =>
    cases b with
    | tuple _ => cases hb
    | scalar b =>
      rw [Key.same, decide_eq_true_eq] at ha hb ⊢
      exact hb.symm.trans ha

end Key

namespace Entries

/-- Whether no text and no integer addresses two entries of a mapping. -/
def Distinct (es : Entries) : Prop := (es.map Prod.fst).Pairwise Key.Apart

theorem distinct_cons {e : Key × Value} {es : Entries} :
    Distinct (e :: es) ↔ (∀ e' ∈ es, e.1.Apart e'.1) ∧ es.Distinct := by
  rw [Distinct, List.map_cons, List.pairwise_cons, List.forall_mem_map]
  exact Iff.rfl

theorem distinct_perm {es fs : Entries} (h : es.Perm fs) : es.Distinct ↔ fs.Distinct :=
  (h.map Prod.fst).pairwise_iff Key.Apart.symm

/-- Putting a value at a key leads to no other keys. -/
theorem mem_insert {es : Entries} {k : Key} {v : Value} {e : Key × Value}
    (h : e ∈ es.insert k v) : e.1 = k ∨ ∃ e' ∈ es, e.1 = e'.1 := by
  induction es with
  | nil =>
    rw [insert, List.mem_singleton] at h
    exact .inl (congrArg Prod.fst h)
  | cons entry es ih =>
    obtain ⟨k', v'⟩ := entry
    rw [insert] at h
    split at h
    · rcases List.mem_cons.mp h with rfl | h
      · exact .inr ⟨(k', v'), List.mem_cons_self, rfl⟩
      · exact .inr ⟨e, List.mem_cons_of_mem _ h, rfl⟩
    · rcases List.mem_cons.mp h with rfl | h
      · exact .inr ⟨(k', v'), List.mem_cons_self, rfl⟩
      · rcases ih h with hKey | ⟨e', he', hKey⟩
        · exact .inl hKey
        · exact .inr ⟨e', List.mem_cons_of_mem _ he', hKey⟩

theorem distinct_insert {es : Entries} (h : es.Distinct) (k : Key) (v : Value) :
    (es.insert k v).Distinct := by
  induction es with
  | nil => exact List.pairwise_singleton Key.Apart k
  | cons entry es ih =>
    obtain ⟨k', v'⟩ := entry
    obtain ⟨hHead, hTail⟩ := distinct_cons.mp h
    rw [insert]
    split
    · exact distinct_cons.mpr ⟨hHead, hTail⟩
    · next hSame =>
      refine distinct_cons.mpr ⟨?_, ih hTail⟩
      intro e he
      rcases mem_insert he with hKey | ⟨e', he', hKey⟩
      · intro key hPlain hk'
        rw [hKey, Bool.eq_false_iff]
        intro hk
        exact hSame (hPlain.same hk' hk)
      · rw [hKey]
        exact hHead e' he'

/-- Pairs that are put in one after the other build distinct keys. -/
theorem distinct_ofPairs (pairs : List (Key × Value)) : (ofPairs pairs).Distinct := by
  have hFold : ∀ es : Entries, es.Distinct →
      (pairs.foldl (fun es pair => insert es pair.1 pair.2) es).Distinct := by
    induction pairs with
    | nil => exact fun _ h => h
    | cons pair pairs ih => exact fun es h => ih _ (distinct_insert h pair.1 pair.2)
  exact hFold [] List.Pairwise.nil

theorem Distinct.of_ofPairs {es : Entries} (h : ofPairs es = es) : es.Distinct := by
  rw [← h]
  exact distinct_ofPairs es

/-- With distinct keys a look-up does not depend on the order of entries. -/
theorem get?_perm {es fs : Entries} (h : es.Perm fs) (hDistinct : es.Distinct) {key : Key}
    (hKey : key.Plain) : es.get? key = fs.get? key := by
  induction h with
  | nil => rfl
  | cons e _ ih =>
    rw [get?_cons, get?_cons, ih (distinct_cons.mp hDistinct).2]
  | swap e e' es =>
    have hApart : e'.1.Apart e.1 := (distinct_cons.mp hDistinct).1 e List.mem_cons_self
    rw [get?_cons, get?_cons, get?_cons, get?_cons]
    by_cases he' : key.same e'.1 = true
    · rw [if_pos he', if_neg (Bool.eq_false_iff.mp (hApart hKey he')), if_pos he']
    · rw [if_neg he', if_neg he']
  | trans h₁ _ ih₁ ih₂ => rw [ih₁ hDistinct, ih₂ ((distinct_perm h₁).mp hDistinct)]

/-- Two entries with one key and related values. -/
inductive Parallel (R : Value → Value → Prop) : Key × Value → Key × Value → Prop
  | entry (k : Key) {v w : Value} (h : R v w) : Parallel R (k, v) (k, w)

variable {R : Value → Value → Prop} {es fs : Entries}

theorem keys_of_parallel (h : List.Forall₂ (Parallel R) es fs) :
    es.map Prod.fst = fs.map Prod.fst := by
  induction h with
  | nil => rfl
  | cons hHead _ ih =>
    cases hHead
    rw [List.map_cons, List.map_cons, ih]

theorem get?_parallel (h : List.Forall₂ (Parallel R) es fs) (key : Key) :
    Option.Rel R (es.get? key) (fs.get? key) := by
  induction h with
  | nil => exact .none
  | cons hHead _ ih =>
    cases hHead with
    | entry k hValue =>
      rw [get?_cons, get?_cons]
      split
      · exact .some hValue
      · exact ih

end Entries

/-- Whether the keys of a mapping are texts. -/
def Entries.Texts (es : Entries) : Prop := ∀ e ∈ es, ∃ s, e.1 = .str s

theorem Entries.texts_nil : Texts [] := fun _ he => absurd he List.not_mem_nil

/-- Pairs with texts as keys build a mapping with texts as keys. -/
theorem Entries.texts_ofPairs {pairs : List (Key × Value)} (h : Texts pairs) :
    (ofPairs pairs).Texts := by
  have hFold : ∀ es : Entries, es.Texts → Texts pairs →
      (pairs.foldl (fun es pair => insert es pair.1 pair.2) es).Texts := by
    clear h
    induction pairs with
    | nil => exact fun _ hEs _ => hEs
    | cons pair pairs ih =>
      intro es hEs hPairs
      obtain ⟨⟨s, hKey⟩, hRest⟩ := List.forall_mem_cons.mp hPairs
      refine ih _ ?_ hRest
      intro e he
      rcases mem_insert he with he | ⟨e', he', he⟩
      · exact ⟨s, he.trans hKey⟩
      · rw [he]
        exact hEs e' he'
  exact hFold [] texts_nil h

/-- Whether no text and no integer addresses two entries of one mapping in a value. -/
def Value.WellFormed (v : Value) : Prop := v.EveryMap Entries.Distinct

end ApiLint
