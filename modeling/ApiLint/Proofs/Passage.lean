import ApiLint.Proofs.Writable
import ApiLint.Operation

/-!
# The passage over a document

What a passage meets, read off the entries of the document.

* `mem_encounters` — an encounter belongs to one entry of `paths`;
* `mem_encountersAt` — what may be met at such an entry;
* `completes_encounters` — the passage goes to the end exactly if the keys that it has to write can
  be written: those of `paths` and those of the path items that it looks into.
-/

namespace ApiLint.Operation

open Outcome

theorem mem_encounters {document : Entries} {encounter : Except Fault Encounter} :
    encounter ∈ encounters document ↔
      ∃ i entry, (pathEntries document)[i]? = some entry ∧ encounter ∈ encountersAt i entry := by
  rw [encounters, List.mem_flatMap]
  constructor
  · rintro ⟨⟨entry, i⟩, hEntry, h⟩
    exact ⟨i, entry, List.mem_zipIdx_iff_getElem?.mp hEntry, h⟩
  · rintro ⟨i, entry, hEntry, h⟩
    exact ⟨(entry, i), List.mem_zipIdx_iff_getElem?.mpr hEntry, h⟩

theorem mem_encountersIn {path : String} {i : Nat} {item : Entries}
    {encounter : Except Fault Encounter} :
    encounter ∈ encountersIn path i item ↔
      ∃ j entry, item[j]? = some entry ∧ encounterAt path i j entry = some encounter := by
  rw [encountersIn, List.mem_filterMap]
  constructor
  · rintro ⟨⟨entry, j⟩, hEntry, h⟩
    exact ⟨j, entry, List.mem_zipIdx_iff_getElem?.mp hEntry, h⟩
  · rintro ⟨j, entry, hEntry, h⟩
    exact ⟨(entry, j), List.mem_zipIdx_iff_getElem?.mpr hEntry, h⟩

/-- Whether a path item is looked into: its key is no extension. -/
def IsEntered (path : String) : Prop := path.startsWith extensionMark = false

instance : DecidablePred IsEntered := fun path =>
  inferInstanceAs (Decidable (path.startsWith extensionMark = false))

theorem encountersAt_of_error {entry : Key × Value} {fault : Fault}
    (hText : entry.1.text = .error fault) (i : Nat) : encountersAt i entry = [.error fault] := by
  unfold encountersAt
  simp only [hText]

theorem encountersAt_of_extension {entry : Key × Value} {path : String}
    (hText : entry.1.text = .ok path) (hPath : ¬ IsEntered path) (i : Nat) :
    encountersAt i entry = [.ok (.extension path)] := by
  rw [IsEntered, Bool.not_eq_false] at hPath
  unfold encountersAt
  simp only [hText, hPath, if_true]

/-- A path item that is looked into is passed entry by entry. -/
theorem encountersAt_of_item {entry : Key × Value} {path : String} {item : Entries}
    (hText : entry.1.text = .ok path) (hPath : IsEntered path) (hItem : entry.2 = .map item)
    (i : Nat) : encountersAt i entry = encountersIn path i item := by
  rw [IsEntered] at hPath
  unfold encountersAt
  simp only [hText, hPath, hItem, Bool.false_eq_true, if_false]

theorem encountersAt_of_no_item {entry : Key × Value} {path : String}
    (hText : entry.1.text = .ok path) (hPath : IsEntered path)
    (hItem : ∀ item, entry.2 ≠ .map item) (i : Nat) : encountersAt i entry = [] := by
  rw [IsEntered] at hPath
  unfold encountersAt
  simp only [hText, hPath, Bool.false_eq_true, if_false]

/-- What is met at an entry of `paths`: a key without text, an extension, or what is met in a path
item. -/
theorem mem_encountersAt {i : Nat} {entry : Key × Value} {encounter : Except Fault Encounter} :
    encounter ∈ encountersAt i entry ↔
      (∃ fault, entry.1.text = .error fault ∧ encounter = .error fault) ∨
      (∃ path, entry.1.text = .ok path ∧ ¬ IsEntered path ∧ encounter = .ok (.extension path)) ∨
      (∃ path item, entry.1.text = .ok path ∧ IsEntered path ∧ entry.2 = .map item ∧
        encounter ∈ encountersIn path i item) := by
  constructor
  · intro h
    cases hText : entry.1.text with
    | error fault =>
      rw [encountersAt_of_error hText, List.mem_singleton] at h
      exact .inl ⟨fault, rfl, h⟩
    | ok path =>
      by_cases hPath : IsEntered path
      · by_cases hItem : ∃ item, entry.2 = .map item
        · obtain ⟨item, hItem⟩ := hItem
          rw [encountersAt_of_item hText hPath hItem] at h
          exact .inr (.inr ⟨path, item, rfl, hPath, hItem, h⟩)
        · rw [encountersAt_of_no_item hText hPath (not_exists.mp hItem)] at h
          cases h
      · rw [encountersAt_of_extension hText hPath, List.mem_singleton] at h
        exact .inr (.inl ⟨path, rfl, hPath, h⟩)
  · rintro (⟨fault, hText, rfl⟩ | ⟨path, hText, hPath, rfl⟩ | ⟨path, item, hText, hPath, hItem, h⟩)
    · rw [encountersAt_of_error hText]
      exact List.mem_singleton_self _
    · rw [encountersAt_of_extension hText hPath]
      exact List.mem_singleton_self _
    · rw [encountersAt_of_item hText hPath hItem]
      exact h

-- ---------------------------------------------------------------------------
-- How far the passage goes
-- ---------------------------------------------------------------------------

theorem completes_encounterAt (path : String) (i j : Nat) {entry : Key × Value} :
    (∀ encounter, encounterAt path i j entry = some encounter → Completes encounter) ↔
      entry.1.Writable := by
  rw [← entry.1.completes_text]
  unfold encounterAt
  cases hText : entry.1.text with
  | error fault =>
    constructor
    · intro h
      exact absurd (h (.error fault) rfl) (not_completes_error fault)
    · intro h
      exact absurd h (not_completes_error fault)
  | ok method =>
    refine ⟨fun _ => completes_ok method, ?_⟩
    intro _ encounter h
    dsimp only at h
    split at h
    · split at h
      · cases h
        exact completes_ok _
      · cases h
        exact completes_ok _
    · cases h

theorem completes_encountersIn {path : String} {i : Nat} {item : Entries} :
    (∀ encounter ∈ encountersIn path i item, Completes encounter) ↔
      ∀ entry ∈ item, entry.1.Writable := by
  constructor
  · intro h entry hEntry
    obtain ⟨j, hj⟩ := List.getElem?_of_mem hEntry
    rw [← completes_encounterAt path i j]
    intro encounter hEncounter
    exact h encounter (mem_encountersIn.mpr ⟨j, entry, hj, hEncounter⟩)
  · intro h encounter hEncounter
    obtain ⟨j, entry, hj, hEncounter⟩ := mem_encountersIn.mp hEncounter
    have hWritable := h entry (List.mem_of_getElem? hj)
    exact (completes_encounterAt path i j).mpr hWritable encounter hEncounter

/-- The keys that a passage has to write at an entry of `paths`: its own and, if it is looked into,
those of the path item. -/
def KeysWritable (entry : Key × Value) : Prop :=
  entry.1.Writable ∧ ∀ path item, entry.1.text = .ok path → IsEntered path →
    entry.2 = .map item → ∀ e ∈ item, e.1.Writable

theorem completes_encountersAt (i : Nat) {entry : Key × Value} :
    (∀ encounter ∈ encountersAt i entry, Completes encounter) ↔ KeysWritable entry := by
  rw [KeysWritable, ← entry.1.completes_text]
  constructor
  · intro h
    constructor
    · cases hText : entry.1.text with
      | error fault =>
        have hFault := h _ (mem_encountersAt.mpr (.inl ⟨fault, hText, rfl⟩))
        exact absurd hFault (not_completes_error fault)
      | ok path => exact completes_ok path
    · intro path item hText hPath hItem
      have hIn : ∀ encounter ∈ encountersIn path i item, Completes encounter := by
        intro encounter hEncounter
        apply h
        exact mem_encountersAt.mpr (.inr (.inr ⟨path, item, hText, hPath, hItem, hEncounter⟩))
      exact completes_encountersIn.mp hIn
  · rintro ⟨hKey, hItem⟩ encounter hEncounter
    rcases mem_encountersAt.mp hEncounter with
      ⟨fault, hText, rfl⟩ | ⟨path, -, -, rfl⟩ | ⟨path, item, hText, hPath, hMap, hEncounter⟩
    · rw [hText] at hKey
      exact absurd hKey (not_completes_error fault)
    · exact completes_ok _
    · exact completes_encountersIn.mpr (hItem path item hText hPath hMap) encounter hEncounter

/-- The passage goes to the end exactly if it can write the keys that it has to. -/
theorem completes_encounters {document : Entries} :
    (∀ encounter ∈ encounters document, Completes encounter) ↔
      ∀ entry ∈ pathEntries document, KeysWritable entry := by
  constructor
  · intro h entry hEntry
    obtain ⟨i, hi⟩ := List.getElem?_of_mem hEntry
    rw [← completes_encountersAt i]
    intro encounter hEncounter
    exact h encounter (mem_encounters.mpr ⟨i, entry, hi, hEncounter⟩)
  · intro h encounter hEncounter
    obtain ⟨i, entry, hi, hEncounter⟩ := mem_encounters.mp hEncounter
    exact (completes_encountersAt i).mpr (h entry (List.mem_of_getElem? hi)) encounter hEncounter

end ApiLint.Operation
