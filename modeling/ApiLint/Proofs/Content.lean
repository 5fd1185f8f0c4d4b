import ApiLint.Proofs.Simulation
import ApiLint.Proofs.Writable

/-!
# Presence by structure

Whether a field carries content is judged by a text, that of the value or those of its items in a
row. It can be told without writing any of them. The text of a value that is no string is never
blank, and texts in a row are blank exactly if each of them is, so only null and blank strings add
nothing to a sequence.

* `Presence.isFiller` — the items that add nothing;
* `Presence.allBlank_itemText` — an item contributes a blank text exactly if it adds nothing;
* `Presence.of_structure` — which values are absent, empty and not empty.
-/

namespace ApiLint.Presence

open Outcome

/-- Whether an item adds nothing to a sequence. -/
def isFiller : Value → Bool
  | .null => true
  | .str s => Text.allBlank s
  | _ => false

/-- The items of a sequence that add something to it. -/
def substance (items : List Value) : List Value := items.filter fun item => !isFiller item

/-- Whether a value is empty: a blank string, or a list or tuple of items that add nothing. -/
def Hollow (v : Value) : Prop :=
  (∃ s, v = .str s ∧ Text.allBlank s = true) ∨
    ∃ items, v.items? = some items ∧ ∀ item ∈ items, isFiller item = true

/-- Whether a value has content: a string with another character than white space, a list or tuple
with an item that adds something, and any other value but null, whatever it holds. -/
inductive Substantial : Value → Prop
  | text {s : String} (h : Text.allBlank s = false) : Substantial (.str s)
  | item {v item : Value} {items : List Value} (hItems : v.items? = some items)
      (hItem : item ∈ items) (h : isFiller item = false) : Substantial v
  | other {v : Value} (hNull : v ≠ .null) (hStr : ∀ s, v ≠ .str s) (hItems : v.items? = none) :
      Substantial v

-- ---------------------------------------------------------------------------
-- Hollow and substantial values
-- ---------------------------------------------------------------------------

theorem hollow_str {s : String} : Hollow (.str s) ↔ Text.allBlank s = true := by
  have hItems : (Value.str s).items? = none := rfl
  simp [Hollow, hItems]

theorem hollow_of_items {v : Value} {items : List Value} (h : v.items? = some items) :
    Hollow v ↔ ∀ item ∈ items, isFiller item = true := by
  have hStr : ∀ s, v ≠ .str s := by
    rintro s rfl
    cases h
  simp [Hollow, h, hStr]

theorem not_hollow_of_other {v : Value} (hStr : ∀ s, v ≠ .str s) (hItems : v.items? = none) :
    ¬ Hollow v := by
  simp [Hollow, hItems, hStr]

theorem not_hollow_null : ¬ Hollow .null := not_hollow_of_other nofun rfl

/-- A sequence is hollow exactly if it has no item that adds something. -/
theorem hollow_iff_substance {v : Value} {items : List Value} (h : v.items? = some items) :
    Hollow v ↔ substance items = [] := by
  simp [hollow_of_items h, substance, List.filter_eq_nil_iff]

/-- Every value but null is hollow or substantial, and none is both. -/
theorem substantial_iff {v : Value} : Substantial v ↔ v ≠ .null ∧ ¬ Hollow v := by
  constructor
  · intro h
    cases h with
    | text h =>
      rw [hollow_str, h]
      exact ⟨nofun, Bool.false_ne_true⟩
    | item hItems hItem h =>
      rw [hollow_of_items hItems]
      refine ⟨?_, fun hFiller => ?_⟩
      · rintro rfl
        cases hItems
      · rw [hFiller _ hItem] at h
        cases h
    | other hNull hStr hItems => exact ⟨hNull, not_hollow_of_other hStr hItems⟩
  · rintro ⟨hNull, hHollow⟩
    cases hItems : v.items? with
    | some items =>
      rw [hollow_of_items hItems] at hHollow
      push Not at hHollow
      obtain ⟨item, hItem, h⟩ := hHollow
      exact .item hItems hItem (Bool.eq_false_iff.mpr h)
    | none =>
      by_cases hStr : ∃ s, v = .str s
      · obtain ⟨s, rfl⟩ := hStr
        rw [hollow_str] at hHollow
        exact .text (Bool.eq_false_iff.mpr hHollow)
      · exact .other hNull (fun s hs => hStr ⟨s, hs⟩) hItems

-- ---------------------------------------------------------------------------
-- Texts
-- ---------------------------------------------------------------------------

/-- The text of a value other than null is blank exactly if the value adds nothing. -/
theorem allBlank_text {v : Value} {t : String} (hNull : v ≠ .null) (h : v.text = .ok t) :
    Text.allBlank t = isFiller v := by
  unfold isFiller
  split
  · exact absurd rfl hNull
  · cases h
    rfl
  · next hStr => exact (Value.opens h hStr).not_allBlank

/-- An item contributes a blank text exactly if it adds nothing. -/
theorem allBlank_itemText {v : Value} {t : String} (h : itemText v = .ok t) :
    Text.allBlank t = isFiller v := by
  unfold itemText at h
  split at h
  · cases h
    rfl
  · next hNull => exact allBlank_text hNull h

/-- The texts of items in a row are blank exactly if no item adds anything. -/
theorem allBlank_join {items : List Value} {texts : List String}
    (h : items.mapM itemText = .ok texts) :
    Text.allBlank (String.join texts) = items.all isFiller := by
  rw [mapM_eq_ok] at h
  induction h with
  | nil => rfl
  | cons hHead _ ih => rw [Text.allBlank_join_cons, List.all_cons, allBlank_itemText hHead, ih]

/-- The text by which a value other than null is judged is blank exactly if the value is hollow. -/
theorem allBlank_content {v : Value} {t : String} (hNull : v ≠ .null) (h : content v = .ok t) :
    Text.allBlank t = true ↔ Hollow v := by
  unfold content at h
  split at h
  · next items hItems =>
    obtain ⟨texts, hTexts, h⟩ := bind_eq_ok.mp h
    cases h
    rw [allBlank_join hTexts, List.all_eq_true, hollow_of_items hItems]
  · next hItems =>
    rw [allBlank_text hNull h]
    unfold isFiller
    split
    · exact absurd rfl hNull
    · exact hollow_str.symm
    · next hStr => simp [not_hollow_of_other hStr hItems]

-- ---------------------------------------------------------------------------
-- Values that can be judged
-- ---------------------------------------------------------------------------

theorem completes_content_of_items {v : Value} {items : List Value} (h : v.items? = some items) :
    Completes (content v) ↔ ∀ item ∈ items, Completes (itemText item) := by
  unfold content
  rw [h]
  dsimp only
  rw [bind_pure_comp, completes_map, completes_mapM]

/-- What adds nothing has a text. -/
theorem completes_itemText_of_filler {v : Value} (h : isFiller v = true) :
    Completes (itemText v) := by
  unfold isFiller at h
  split at h
  · exact completes_ok _
  · exact completes_ok _
  · cases h

/-- A sequence can be judged if what adds something to it adds something to one that can be. -/
theorem completes_content_of_substance {v w : Value} {items items' : List Value}
    (hContent : Completes (content v)) (hItems : v.items? = some items)
    (hItems' : w.items? = some items') (h : substance items' ⊆ substance items) :
    Completes (content w) := by
  rw [completes_content_of_items hItems] at hContent
  rw [completes_content_of_items hItems']
  intro item hItem
  by_cases hFiller : isFiller item = true
  · exact completes_itemText_of_filler hFiller
  · have hSubstance : item ∈ substance items' := by
      simpa [substance, hItem] using hFiller
    exact hContent item (List.mem_of_mem_filter (h hSubstance))

theorem of_of_hollow {v : Value} (hContent : Completes (content v)) (h : Hollow v) :
    of v = .ok .empty := by
  have hNull : v ≠ .null := by
    rintro rfl
    exact not_hollow_null h
  obtain ⟨t, ht⟩ := hContent
  rw [of_eq_map hNull, ht]
  exact congrArg Except.ok (if_pos ((allBlank_content hNull ht).mpr h))

theorem of_of_substantial {v : Value} (hContent : Completes (content v)) (h : Substantial v) :
    of v = .ok .nonEmpty := by
  obtain ⟨hNull, hHollow⟩ := substantial_iff.mp h
  obtain ⟨t, ht⟩ := hContent
  rw [of_eq_map hNull, ht]
  exact congrArg Except.ok (if_neg fun hBlank => hHollow ((allBlank_content hNull ht).mp hBlank))

-- ---------------------------------------------------------------------------
-- Presence
-- ---------------------------------------------------------------------------

/-- **Presence is decided by structure.** A value that has a text is absent exactly if it is null,
empty exactly if it is hollow and not empty exactly if it is substantial. Neither the order of the
items of a sequence nor items that add nothing matter, nor whether it is a list or a tuple. -/
theorem of_structure {v : Value} (h : Completes v.text) :
    ∃ presence, of v = .ok presence ∧
      (presence = .absent ↔ v = .null) ∧
      (presence = .empty ↔ Hollow v) ∧
      (presence = .nonEmpty ↔ Substantial v) ∧
      ∀ items w items', v.items? = some items → w.items? = some items' →
        (substance items').Perm (substance items) → of w = .ok presence := by
  have hContent : Completes (content v) := by
    rw [completes_content, ← v.completes_text]
    exact h
  have hRearranged : ∀ items w items', v.items? = some items → w.items? = some items' →
      (substance items').Perm (substance items) →
      Completes (content w) ∧ (Hollow w ↔ Hollow v) := by
    intro items w items' hItems hItems' hPerm
    refine ⟨completes_content_of_substance hContent hItems hItems' hPerm.subset, ?_⟩
    rw [hollow_iff_substance hItems, hollow_iff_substance hItems', ← List.length_eq_zero_iff,
      hPerm.length_eq, List.length_eq_zero_iff]
  by_cases hNull : v = .null
  · subst hNull
    have hSubstantial : ¬ Substantial .null := fun h => (substantial_iff.mp h).1 rfl
    refine ⟨.absent, rfl, by simp, by simp [not_hollow_null], by simp [hSubstantial], ?_⟩
    intro items w items' hItems
    cases hItems
  by_cases hHollow : Hollow v
  · have hSubstantial : ¬ Substantial v := fun h => (substantial_iff.mp h).2 hHollow
    refine ⟨.empty, of_of_hollow hContent hHollow, by simp [hNull], by simp [hHollow],
      by simp [hSubstantial], ?_⟩
    intro items w items' hItems hItems' hPerm
    obtain ⟨hContent', hHollow'⟩ := hRearranged items w items' hItems hItems' hPerm
    exact of_of_hollow hContent' (hHollow'.mpr hHollow)
  · have hSubstantial : Substantial v := substantial_iff.mpr ⟨hNull, hHollow⟩
    refine ⟨.nonEmpty, of_of_substantial hContent hSubstantial, by simp [hNull], by simp [hHollow],
      by simp [hSubstantial], ?_⟩
    intro items w items' hItems hItems' hPerm
    obtain ⟨hContent', hHollow'⟩ := hRearranged items w items' hItems hItems' hPerm
    have hNull' : w ≠ .null := by
      rintro rfl
      cases hItems'
    exact of_of_substantial hContent' (substantial_iff.mpr ⟨hNull', hHollow'.not.mpr hHollow⟩)

/-- An empty list is content to the list that it stands in, whatever blank items stand around it. -/
theorem of_structure_nested :
    Completes (Value.list [.null, .list [], .str " "]).text ∧
      of (.list [.null, .list [], .str " "]) = .ok .nonEmpty ∧
      of (.tuple [.str "\t\u3000", .str "", .null, .list []]) = .ok .nonEmpty := by
  have hText : Completes (Value.list [.null, .list [], .str " "]).text := by
    decide +kernel
  have hItem : Value.list [] ∈ [Value.null, .list [], .str " "] := by
    simp
  have hSubstance : substance [.str "\t\u3000", .str "", .null, .list []] =
      substance [.null, .list [], .str " "] := by
    rfl
  obtain ⟨presence, hPresence, -, -, hNonEmpty, hRearranged⟩ := of_structure hText
  have hSame := hRearranged _ (.tuple [.str "\t\u3000", .str "", .null, .list []]) _ rfl rfl
    (.of_eq hSubstance)
  rw [hNonEmpty.mpr (.item rfl hItem rfl)] at hPresence hSame
  exact ⟨hText, hPresence, hSame⟩

end ApiLint.Presence
