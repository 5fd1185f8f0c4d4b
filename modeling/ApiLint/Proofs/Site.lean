import ApiLint.Proofs.Entries
import ApiLint.Proofs.Passage

/-!
# Where an operation stands

An operation that a document yields stands at a slot of a path item, which stands at a slot of
`paths`, which stands at a slot of the document. Its `Site` is these three slots.

* `exists_site` — every operation that a document yields has a site;
* `Site.encounters_document` — what is met in the document apart from the operation does not depend
  on its fields;
* `optOut` — the document in which the operation has opted out.
-/

namespace ApiLint.Operation

open Outcome

/-- Which operation of a document it is. -/
def origin (op : Operation) : Nat × Nat := (op.pathIndex, op.methodIndex)

-- ---------------------------------------------------------------------------
-- Origins
-- ---------------------------------------------------------------------------

theorem encounterAt_eq_operation {path : String} {i j : Nat} {entry : Key × Value}
    {op : Operation} :
    encounterAt path i j entry = some (.ok (.operation op)) ↔
      (entry.1.text = .ok op.method ∧ methods.contains op.method = true) ∧
        (entry.2 = .map op.fields ∧ isExcluded op.fields = false) ∧
        op.path = path ∧ op.origin = (i, j) := by
  unfold encounterAt
  cases entry.1.text with
  | error fault =>
    constructor
    · intro h
      cases h
    · rintro ⟨⟨hText, -⟩, -⟩
      cases hText
  | ok method =>
    dsimp only
    constructor
    · intro h
      split at h
      · next fields hMethod hFields =>
        split at h
        · cases h
        · next hExcluded =>
          cases h
          exact ⟨⟨rfl, hMethod⟩, ⟨hFields, Bool.eq_false_iff.mpr hExcluded⟩, rfl, rfl⟩
      · cases h
    · rintro ⟨⟨hText, hMethod⟩, ⟨hFields, hExcluded⟩, rfl, hOrigin⟩
      cases hText
      cases hOrigin
      simp only [hMethod, hFields, hExcluded, Bool.false_eq_true, if_false]

theorem operation_mem_encountersAt {i : Nat} {entry : Key × Value} {op : Operation} :
    .ok (.operation op) ∈ encountersAt i entry ↔
      (entry.1.text = .ok op.path ∧ IsEntered op.path) ∧
        ∃ item j entry', entry.2 = .map item ∧ item[j]? = some entry' ∧
          encounterAt op.path i j entry' = some (.ok (.operation op)) := by
  rw [mem_encountersAt]
  constructor
  · rintro (⟨fault, -, h⟩ | ⟨path, -, -, h⟩ | ⟨path, item, hText, hPath, hItem, h⟩)
    · cases h
    · cases h
    · obtain ⟨j, entry', hEntry, h⟩ := mem_encountersIn.mp h
      obtain ⟨-, -, rfl, -⟩ := encounterAt_eq_operation.mp h
      exact ⟨⟨hText, hPath⟩, item, j, entry', hItem, hEntry, h⟩
  · rintro ⟨⟨hText, hPath⟩, item, j, entry', hItem, hEntry, h⟩
    exact .inr (.inr ⟨op.path, item, hText, hPath, hItem,
      mem_encountersIn.mpr ⟨j, entry', hEntry, h⟩⟩)

-- ---------------------------------------------------------------------------
-- Sites
-- ---------------------------------------------------------------------------

/-- The slots at which an operation stands. -/
structure Site (op : Operation) where
  root : Slot
  paths : Slot
  item : Slot
  /-- The first slot is where `paths` is found. -/
  hRoot : (Key.str "paths").same root.key = true
  hFirst : root.front.field? "paths" = none
  hPath : paths.key.text = .ok op.path
  hEntered : IsEntered op.path
  hMethod : item.key.text = .ok op.method
  hMethods : methods.contains op.method = true
  hOrigin : (paths.front.length, item.front.length) = op.origin

namespace Site

variable {op : Operation} (site : Site op)

/-- The path item with these fields of the operation. -/
def itemWith (fields : Entries) : Entries := site.item.fill (.map fields)

/-- The entries of `paths` with these fields of the operation. -/
def pathsWith (fields : Entries) : Entries := site.paths.fill (.map (site.itemWith fields))

/-- The document with these fields of the operation. -/
def document (fields : Entries) : Entries := site.root.fill (.map (site.pathsWith fields))

theorem field?_paths (fields : Entries) :
    (site.document fields).field? "paths" = some (.map (site.pathsWith fields)) := by
  have hFirst := site.hFirst
  rw [Entries.field?] at hFirst
  rw [document, Entries.field?, Slot.get?_fill, hFirst, if_pos site.hRoot]
  rfl

theorem pathEntries_document (fields : Entries) :
    pathEntries (site.document fields) = site.pathsWith fields := by
  rw [pathEntries, site.field?_paths]

/-- What is met in the document before the operation. -/
def before : List (Except Fault Encounter) :=
  (site.paths.front.zipIdx.flatMap fun (entry, i) => encountersAt i entry) ++
    site.item.front.zipIdx.filterMap fun (entry, j) => encounterAt op.path op.pathIndex j entry

/-- What is met in the document after the operation. -/
def after : List (Except Fault Encounter) :=
  ((site.item.back.zipIdx (op.methodIndex + 1)).filterMap fun (entry, j) =>
    encounterAt op.path op.pathIndex j entry) ++
    (site.paths.back.zipIdx (op.pathIndex + 1)).flatMap fun (entry, i) => encountersAt i entry

/-- What is met at the operation. -/
def met (op : Operation) (fields : Entries) : Encounter :=
  if isExcluded fields then .excluded op.method op.path else .operation { op with fields }

theorem encounterAt_op (fields : Entries) :
    encounterAt op.path op.pathIndex op.methodIndex (site.item.key, .map fields) =
      some (.ok (met op fields)) := by
  unfold encounterAt met
  simp only [site.hMethod, site.hMethods]
  split
  · rfl
  · rfl

theorem encountersIn_itemWith (fields : Entries) :
    encountersIn op.path op.pathIndex (site.itemWith fields) =
      (site.item.front.zipIdx.filterMap fun (entry, j) =>
        encounterAt op.path op.pathIndex j entry) ++
      .ok (met op fields) ::
        (site.item.back.zipIdx (op.methodIndex + 1)).filterMap fun (entry, j) =>
          encounterAt op.path op.pathIndex j entry := by
  have hIndex : site.item.front.length = op.methodIndex := congrArg Prod.snd site.hOrigin
  rw [encountersIn, itemWith, Slot.fill, List.zipIdx_append, List.filterMap_append,
    List.zipIdx_cons, hIndex, Nat.zero_add]
  congr 1
  exact List.filterMap_cons_some (site.encounterAt_op fields)

/-- What is met in the document apart from the operation does not depend on its fields. -/
theorem encounters_document (fields : Entries) :
    encounters (site.document fields) = site.before ++ .ok (met op fields) :: site.after := by
  have hIndex : site.paths.front.length = op.pathIndex := congrArg Prod.fst site.hOrigin
  rw [encounters, site.pathEntries_document, pathsWith, Slot.fill, List.zipIdx_append,
    List.flatMap_append, List.zipIdx_cons, hIndex, Nat.zero_add, List.flatMap_cons]
  dsimp only
  rw [encountersAt_of_item site.hPath site.hEntered rfl, site.encountersIn_itemWith, before, after]
  simp only [List.append_assoc, List.cons_append]

theorem origin_of_mem_before {other : Operation}
    (h : .ok (.operation other) ∈ site.before) : other.origin ≠ op.origin := by
  rw [← site.hOrigin]
  intro hOrigin
  rcases List.mem_append.mp h with h | h
  · obtain ⟨⟨entry, i⟩, hEntry, h⟩ := List.mem_flatMap.mp h
    obtain ⟨-, item, j, entry', -, -, h⟩ := operation_mem_encountersAt.mp h
    obtain ⟨-, -, -, hOther⟩ := encounterAt_eq_operation.mp h
    obtain ⟨rfl, -⟩ := Prod.mk.inj (hOther.symm.trans hOrigin)
    have hLess := List.snd_lt_of_mem_zipIdx hEntry
    omega
  · obtain ⟨⟨entry, j⟩, hEntry, h⟩ := List.mem_filterMap.mp h
    obtain ⟨-, -, -, hOther⟩ := encounterAt_eq_operation.mp h
    obtain ⟨-, rfl⟩ := Prod.mk.inj (hOther.symm.trans hOrigin)
    have hLess := List.snd_lt_of_mem_zipIdx hEntry
    omega

theorem origin_of_mem_after {other : Operation}
    (h : .ok (.operation other) ∈ site.after) : other.origin ≠ op.origin := by
  intro hOrigin
  rcases List.mem_append.mp h with h | h
  · obtain ⟨⟨entry, j⟩, hEntry, h⟩ := List.mem_filterMap.mp h
    obtain ⟨-, -, -, hOther⟩ := encounterAt_eq_operation.mp h
    obtain ⟨-, rfl⟩ := Prod.mk.inj (hOther.symm.trans hOrigin)
    have hLess := List.le_snd_of_mem_zipIdx hEntry
    omega
  · obtain ⟨⟨entry, i⟩, hEntry, h⟩ := List.mem_flatMap.mp h
    obtain ⟨-, item, j, entry', -, -, h⟩ := operation_mem_encountersAt.mp h
    obtain ⟨-, -, -, hOther⟩ := encounterAt_eq_operation.mp h
    obtain ⟨rfl, -⟩ := Prod.mk.inj (hOther.symm.trans hOrigin)
    have hLess := List.le_snd_of_mem_zipIdx hEntry
    omega

end Site

/-- Every operation that a document yields has a site in it, and has not opted out. -/
theorem exists_site {document : Entries} {op : Operation}
    (h : .ok (.operation op) ∈ encounters document) :
    isExcluded op.fields = false ∧ ∃ site : Site op, document = site.document op.fields := by
  obtain ⟨i, entry, hEntry, h⟩ := mem_encounters.mp h
  obtain ⟨⟨hPath, hEntered⟩, item, j, entry', hItem, hEntry', h⟩ := operation_mem_encountersAt.mp h
  obtain ⟨⟨hMethod, hMethods⟩, ⟨hFields, hExcluded⟩, -, hOrigin⟩ := encounterAt_eq_operation.mp h
  refine ⟨hExcluded, ?_⟩
  have hPaths : document.field? "paths" = some (.map (pathEntries document)) := by
    unfold pathEntries at hEntry ⊢
    split at hEntry
    · next hField => rw [hField]
    · cases hEntry
  -- one slot for each look-up on the way to the operation
  obtain ⟨root, hDocument, hRoot, hFirst⟩ := Slot.exists_of_get? hPaths
  obtain ⟨paths, hPathEntries, hPathKey, hPathIndex⟩ := Slot.exists_of_getElem? hEntry
  obtain ⟨slot, hSlot, hSlotKey, hMethodIndex⟩ := Slot.exists_of_getElem? hEntry'
  refine ⟨⟨root, paths, slot, hRoot, hFirst, ?_, hEntered, ?_, hMethods, ?_⟩, ?_⟩
  · rw [hPathKey]
    exact hPath
  · rw [hSlotKey]
    exact hMethod
  · rw [hPathIndex, hMethodIndex]
    exact hOrigin.symm
  · rw [hDocument, hPathEntries, hItem, hSlot, hFields]
    rfl

-- ---------------------------------------------------------------------------
-- Opting out
-- ---------------------------------------------------------------------------

/-- Changes the entries of a mapping; other values have none. -/
def onEntries (change : Entries → Entries) : Value → Value
  | .map es => .map (change es)
  | v => v

/-- The document in which an operation has opted out. -/
def optOut (document : Entries) (op : Operation) : Entries :=
  document.adjust (onEntries fun paths =>
    paths.modify op.pathIndex fun e => (e.1, onEntries (fun item =>
      item.modify op.methodIndex fun e => (e.1, onEntries (fun fields =>
        fields.insert (.str excludeKey) (.bool true)) e.2)) e.2)) "paths"

theorem Site.optOut_document {op : Operation} (site : Site op) (fields : Entries) :
    optOut (site.document fields) op =
      site.document (fields.insert (.str excludeKey) (.bool true)) := by
  obtain ⟨hPathIndex, hMethodIndex⟩ := Prod.mk.inj site.hOrigin
  rw [optOut, document, Slot.adjust_fill site.hRoot site.hFirst, onEntries, pathsWith,
    ← hPathIndex, Slot.modify_fill, onEntries, itemWith, ← hMethodIndex, Slot.modify_fill]
  rfl

end ApiLint.Operation
