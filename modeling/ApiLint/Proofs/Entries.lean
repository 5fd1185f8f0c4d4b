import ApiLint.Value
import Mathlib.Data.Option.Defs
import Mathlib.Logic.Basic

/-!
# Looking up keys

How a look-up goes through the entries of a mapping, and which keys a text or an integer addresses.

* `Key.same_str` — a text addresses the key that is this text and no other;
* `Entries.get?_append` — a look-up goes through the entries in order;
* `Slot` — the place of one entry among the others, which can be filled with any value.
-/

namespace ApiLint

theorem Scalar.address_eq_str {s : Scalar} {name : String} :
    s.address = .str name ↔ s = .str name := by
  constructor
  · intro h
    unfold address at h
    split at h
    · cases h
    · cases h
    · cases h
    · split at h
      · cases h
      · cases h
    · cases h
      rfl
    · cases h
    · cases h
    · split at h
      · cases h
      · cases h
  · rintro rfl
    rfl

namespace Key

/-- A text addresses the key that is this text and no other. -/
theorem same_str {name : String} {k : Key} : (Key.str name).same k = true ↔ k = .str name := by
  cases k with
  | scalar s =>
    rw [same, decide_eq_true_eq, eq_comm (b := s.address)]
    show s.address = .str name ↔ _
    rw [Scalar.address_eq_str, Key.scalar.injEq]
  | tuple items =>
    constructor
    · intro h
      cases h
    · intro h
      cases h

theorem str_same_str_of_ne {a b : String} (h : a ≠ b) : (Key.str a).same (.str b) = false := by
  rw [Bool.eq_false_iff]
  intro hSame
  cases same_str.mp hSame
  exact h rfl

theorem int_same_str (n : Int) (name : String) : (Key.int n).same (.str name) = false := rfl

end Key

namespace Entries

theorem get?_cons (entry : Key × Value) (es : Entries) (key : Key) :
    get? (entry :: es) key = if key.same entry.1 then some entry.2 else get? es key := by
  rw [get?, get?, List.find?_cons]
  cases key.same entry.1 <;> rfl

/-- What a look-up finds stands at an entry. -/
theorem mem_of_get? {es : Entries} {key : Key} {v : Value} (h : get? es key = some v) :
    ∃ k, (k, v) ∈ es := by
  obtain ⟨entry, hEntry, rfl⟩ := Option.map_eq_some_iff.mp h
  exact ⟨entry.1, List.mem_of_find?_eq_some hEntry⟩

theorem field?_cons_str (s : String) (v : Value) (es : Entries) (name : String) :
    field? ((.str s, v) :: es) name = if s = name then some v else es.field? name := by
  rw [field?, get?_cons]
  refine if_congr ?_ rfl rfl
  rw [Key.same_str, Key.scalar.injEq, Scalar.str.injEq]

theorem field?_cons_int (n : Int) (v : Value) (es : Entries) (name : String) :
    field? ((.int n, v) :: es) name = es.field? name :=
  get?_cons _ es _

theorem get?_cons_str (s : String) (v : Value) (es : Entries) (n : Int) :
    get? ((.str s, v) :: es) (.int n) = es.get? (.int n) :=
  get?_cons _ es _

theorem get?_cons_int (m : Int) (v : Value) (es : Entries) (n : Int) :
    get? ((.int m, v) :: es) (.int n) = if m = n then some v else es.get? (.int n) := by
  rw [get?_cons]
  refine if_congr ?_ rfl rfl
  rw [Key.same, decide_eq_true_eq, Scalar.address, Scalar.address, Scalar.Address.number.injEq]
  exact eq_comm

/-- A look-up goes through the entries in order. -/
theorem get?_append (es fs : Entries) (key : Key) :
    get? (es ++ fs) key = (get? es key).or (get? fs key) := by
  induction es with
  | nil => rfl
  | cons entry es ih =>
    rw [List.cons_append, get?_cons, get?_cons, ih]
    split
    · rfl
    · rfl

/-- Two look-ups of which the second one counts if the first one finds nothing. -/
theorem rel_or {R : Value → Value → Prop} {a b a' b' : Option Value} (h : Option.Rel R a b)
    (h' : Option.Rel R a' b') : Option.Rel R (a.or a') (b.or b') := by
  cases h with
  | none => exact h'
  | some hPart => exact .some hPart

/-- Putting a value at a text key that is not there adds an entry at the end. -/
theorem insert_of_field?_eq_none {es : Entries} {name : String} (h : es.field? name = none)
    (v : Value) : es.insert (.str name) v = es ++ [(.str name, v)] := by
  induction es with
  | nil => rfl
  | cons entry es ih =>
    obtain ⟨k, w⟩ := entry
    rw [field?, get?_cons] at h
    split at h
    · cases h
    · next hSame => rw [insert, if_neg hSame, ih h, List.cons_append]

/-- Putting a value at a text key changes what is found at that text and at no other. -/
theorem field?_insert (es : Entries) (name : String) (v : Value) (other : String) :
    field? (es.insert (.str name) v) other = if name = other then some v else es.field? other := by
  induction es with
  | nil => exact field?_cons_str name v [] other
  | cons entry es ih =>
    obtain ⟨k, w⟩ := entry
    rw [insert]
    split
    · next hSame =>
      rw [Key.same_str.mp hSame, field?_cons_str, field?_cons_str]
      split
      · rfl
      · rfl
    · next hSame =>
      rw [field?, field?, get?_cons, get?_cons]
      by_cases hOther : (Key.str other).same k = true
      · have hNe : name ≠ other := by
          rintro rfl
          exact hSame hOther
        rw [if_pos hOther, if_pos hOther, if_neg hNe]
      · rw [if_neg hOther, if_neg hOther]
        exact ih

/-- Changes the value that is found at a text key. -/
def adjust (change : Value → Value) (name : String) : Entries → Entries
  | [] => []
  | (k, v) :: es =>
    if (Key.str name).same k then (k, change v) :: es else (k, v) :: adjust change name es

end Entries

/-- The place of one entry of a mapping: its key and the entries before and after it. -/
structure Slot where
  front : Entries
  key : Key
  back : Entries

namespace Slot

/-- The mapping with a value at the place. -/
def fill (slot : Slot) (v : Value) : Entries := slot.front ++ (slot.key, v) :: slot.back

theorem get?_fill (slot : Slot) (v : Value) (key : Key) :
    (slot.fill v).get? key =
      (slot.front.get? key).or (if key.same slot.key then some v else slot.back.get? key) := by
  rw [fill, Entries.get?_append, Entries.get?_cons]

theorem modify_fill (slot : Slot) (v : Value) (change : Value → Value) :
    (slot.fill v).modify slot.front.length (fun e => (e.1, change e.2)) =
      slot.fill (change v) := by
  rw [fill, List.modify_eq_take_drop, List.take_left, List.drop_left]
  rfl

theorem adjust_fill {slot : Slot} {name : String} (hKey : (Key.str name).same slot.key = true)
    (hFront : slot.front.field? name = none) (v : Value) (change : Value → Value) :
    (slot.fill v).adjust change name = slot.fill (change v) := by
  obtain ⟨front, key, back⟩ := slot
  induction front with
  | nil => exact if_pos hKey
  | cons entry front ih =>
    dsimp only at hKey hFront
    rw [Entries.field?, Entries.get?_cons] at hFront
    split at hFront
    · cases hFront
    · next hSame =>
      show Entries.adjust change name (entry :: fill ⟨front, key, back⟩ v) = _
      rw [Entries.adjust, if_neg hSame, ih hKey hFront]
      rfl

/-- A key that is found is found at a slot. -/
theorem exists_of_get? {es : Entries} {key : Key} {v : Value} (h : es.get? key = some v) :
    ∃ slot : Slot, es = slot.fill v ∧ key.same slot.key = true ∧ slot.front.get? key = none := by
  induction es with
  | nil => cases h
  | cons entry es ih =>
    rw [Entries.get?_cons] at h
    split at h
    · next hSame =>
      cases h
      exact ⟨⟨[], entry.1, es⟩, rfl, hSame, rfl⟩
    · next hSame =>
      obtain ⟨slot, rfl, hKey, hFront⟩ := ih h
      refine ⟨⟨entry :: slot.front, slot.key, slot.back⟩, rfl, hKey, ?_⟩
      rw [Entries.get?_cons, if_neg hSame, hFront]

/-- An entry at a position stands at a slot. -/
theorem exists_of_getElem? {es : Entries} {i : Nat} {entry : Key × Value}
    (h : es[i]? = some entry) :
    ∃ slot : Slot, es = slot.fill entry.2 ∧ slot.key = entry.1 ∧ slot.front.length = i := by
  obtain ⟨hi, rfl⟩ := List.getElem?_eq_some_iff.mp h
  refine ⟨⟨es.take i, es[i].1, es.drop (i + 1)⟩, ?_, rfl, ?_⟩
  · show es = es.take i ++ es[i] :: es.drop (i + 1)
    rw [List.getElem_cons_drop, List.take_append_drop]
  · exact List.length_take_of_le (Nat.le_of_lt hi)

end Slot

end ApiLint
