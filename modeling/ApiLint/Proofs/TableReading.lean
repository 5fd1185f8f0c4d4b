import ApiLint.Document
import ApiLint.Presentation
import ApiLint.Proofs.BoxedTable
import ApiLint.Proofs.PlainForm
import Mathlib.Data.List.FinRange

/-!
# Reading tables

Whatever the format of a run is, the rows of a table are found in what is printed: as objects with
one field for each header, as lines with tabs, or between the bars of a box. A box may break the
cells of a row; then their first lines are found.

* `Table.readRows` — a reader for each format;
* `Table.readObject_rowObject` — the cells of a row are the fields of its object;
* `Presentation.readRows_table` — the rows of a table are found in every format.
-/

namespace ApiLint

namespace Table

-- ---------------------------------------------------------------------------
-- Readers
-- ---------------------------------------------------------------------------

/-- The text that an object has at a name. -/
def readText (object : Value) (name : String) : Option String :=
  match object.field? name with
  | some (.str text) => some text
  | _ => none

/-- The texts that an object has at some names. -/
def readObject (names : List String) (object : Value) : Option (List String) :=
  names.mapM (readText object)

/-- The rows that a reader finds under some headers. -/
def readRows (headers : List String) : ReportFormat → String → Option (List (List String))
  | .json, text => match Formats.readJson text with
    | .ok (.list objects) => objects.mapM (readObject headers)
    | _ => none
  | .plain, text => match readPlain text with
    | first :: rows => if first = headers then some rows else none
    | [] => none
  | .rich, text => some (readBoxed text)

/-- A table that no format changes. -/
structure Readable (t : Table) : Prop extends t.Boxable where
  distinct : t.headers.Nodup
  lines : ∀ row ∈ t.headers :: t.rows, FitsLine row

-- ---------------------------------------------------------------------------
-- Objects
-- ---------------------------------------------------------------------------

open Json (Tree)

section Objects

variable {α : Type} {name : α → String} {cell : α → String}

theorem member_of_new {members : List (String × Tree)} {name : String}
    (h : ∀ m ∈ members, m.1 ≠ name) (value : Tree) :
    member members name value = members ++ [(name, value)] := by
  induction members with
  | nil => rfl
  | cons m members ih =>
    obtain ⟨hFirst, hRest⟩ := List.forall_mem_cons.mp h
    rw [member, if_neg hFirst, ih hRest, List.cons_append]

/-- Cells under different names become one member each. -/
theorem foldl_member (hName : Function.Injective name) {xs : List α} (hNodup : xs.Nodup) :
    (xs.map fun x => (name x, cell x)).foldl
        (fun ms (name, cell) => member ms name (.str cell)) [] =
      xs.map fun x => (name x, .str (cell x)) := by
  have hFold : ∀ ms : List (String × Tree), (∀ x ∈ xs, ∀ m ∈ ms, m.1 ≠ name x) →
      (xs.map fun x => (name x, cell x)).foldl
          (fun ms (name, cell) => member ms name (.str cell)) ms =
        ms ++ xs.map fun x => (name x, .str (cell x)) := by
    induction xs with
    | nil => exact fun ms _ => (List.append_nil ms).symm
    | cons x xs ih =>
      intro ms hNew
      obtain ⟨hFirst, hRest⟩ := List.forall_mem_cons.mp hNew
      obtain ⟨hNotMem, hNodup⟩ := List.nodup_cons.mp hNodup
      have hLater : ∀ y ∈ xs, ∀ m ∈ ms ++ [(name x, Tree.str (cell x))], m.1 ≠ name y := by
        intro y hy
        refine List.forall_mem_append.mpr ⟨hRest y hy, List.forall_mem_singleton.mpr ?_⟩
        intro hSame
        exact hNotMem (hName hSame ▸ hy)
      rw [List.map_cons, List.foldl_cons]
      dsimp only
      rw [member_of_new hFirst, ih hNodup _ hLater, List.append_assoc, List.singleton_append,
        List.map_cons]
  exact hFold [] fun _ _ _ hm => absurd hm List.not_mem_nil

theorem toPairs_map (xs : List α) :
    Tree.toPairs (xs.map fun x => (name x, .str (cell x))) =
      xs.map fun x => (.str (name x), .str (cell x)) := by
  induction xs with
  | nil => rfl
  | cons x xs ih => rw [List.map_cons, List.map_cons, Tree.toPairs, Tree.toValue, ih]

end Objects

theorem mem_member {members : List (String × Tree)} {name : String} {value : Tree}
    {m : String × Tree} (h : m ∈ member members name value) : m ∈ members ∨ m.2 = value := by
  induction members with
  | nil => exact .inr (congrArg Prod.snd (List.mem_singleton.mp h))
  | cons m' members ih =>
    rw [member] at h
    split at h
    · rcases List.mem_cons.mp h with rfl | h
      · exact .inr rfl
      · exact .inl (List.mem_cons_of_mem _ h)
    · rcases List.mem_cons.mp h with rfl | h
      · exact .inl List.mem_cons_self
      · exact (ih h).imp_left (List.mem_cons_of_mem _)

theorem rowObject_textual (headers row : List String) : (rowObject headers row).Textual := by
  have hFold : ∀ (cells : List (String × String)) (ms : List (String × Tree)),
      (∀ m ∈ ms, m.2.Textual) →
      ∀ m ∈ cells.foldl (fun ms (name, cell) => member ms name (.str cell)) ms, m.2.Textual := by
    intro cells
    induction cells with
    | nil => exact fun ms h => h
    | cons cell cells ih =>
      intro ms h
      refine ih _ fun m hm => ?_
      rcases mem_member hm with hm | hm
      · exact h m hm
      · exact hm ▸ .str _
  exact .obj (hFold _ [] fun m hm => absurd hm List.not_mem_nil)

theorem mapM_map_eq_some {α β γ : Type} {f : β → Option γ} {a : α → β} {b : α → γ} {xs : List α}
    (h : ∀ x ∈ xs, f (a x) = some (b x)) : (xs.map a).mapM f = some (xs.map b) := by
  induction xs with
  | nil => rfl
  | cons x xs ih =>
    obtain ⟨hx, hxs⟩ := List.forall_mem_cons.mp h
    rw [List.map_cons, List.mapM_cons, hx, ih hxs]
    rfl

/-- The cells of a row are the fields of its object. -/
theorem readObject_rowObject {headers row : List String} (hDistinct : headers.Nodup)
    (hLength : row.length = headers.length) :
    readObject headers (rowObject headers row).toValue = some row := by
  have hName : Function.Injective headers.get := List.nodup_iff_injective_get.mp hDistinct
  have hZip : headers.zip row = (List.finRange headers.length).map fun i =>
      (headers.get i, row.get (i.cast hLength.symm)) := by
    apply List.ext_getElem
    · simp [hLength]
    · intro i hi hi'
      simp
  have hValue : (rowObject headers row).toValue =
      .map ((List.finRange headers.length).map fun i =>
        (.str (headers.get i), .str (row.get (i.cast hLength.symm)))) := by
    rw [rowObject, hZip, foldl_member hName (List.nodup_finRange _), Tree.toValue, toPairs_map,
      Entries.ofPairs_map hName (List.nodup_finRange _)]
  have hText : ∀ i ∈ List.finRange headers.length,
      readText (rowObject headers row).toValue (headers.get i) =
        some (row.get (i.cast hLength.symm)) := by
    intro i hi
    rw [hValue, readText, Value.field?, Entries.field?_map hName hi]
  have hRow :
      (List.finRange headers.length).map (fun i => row.get (i.cast hLength.symm)) = row := by
    apply List.ext_getElem
    · simp [hLength]
    · intro i hi hi'
      simp
  have hRead := mapM_map_eq_some hText
  rwa [List.map_get_finRange, hRow] at hRead

end Table

namespace Presentation

/-- What is found of a row: in a box its first line, and all of it otherwise. -/
def found (p : Presentation) (t : Table) (row : List String) : List String :=
  match p.format with
  | .rich => Table.lineOf (t.widths p.columns) row 0
  | _ => row

/-- **The rows of a table are found in every format**, in a box if its first column shows where they
begin. -/
theorem readRows_table (p : Presentation) {t : Table} (h : t.Readable)
    (hLeads : p.format = .rich → t.Leads p.columns) :
    Table.readRows t.headers p.format (p.table t) = some (t.rows.map (p.found t)) := by
  have hWhole : p.format ≠ .rich → t.rows.map (p.found t) = t.rows := by
    intro hFormat
    have hFound : p.found t = id := by
      funext row
      unfold found
      split
      · exact absurd ‹_› hFormat
      · rfl
    rw [hFound, List.map_id]
  unfold table
  cases hFormat : p.format with
  | json =>
    rw [hWhole (by simp [hFormat])]
    have hTextual : t.toJson.Textual :=
      Json.Tree.textual_arr_map (Table.rowObject_textual t.headers) t.rows
    have hBlanks : ∀ c ∈ "\n".toList, Json.isSpace c := by simp [Json.isSpace]
    have hValue : t.toJson.toValue =
        .list (t.rows.map fun row => (Table.rowObject t.headers row).toValue) :=
      Json.Tree.toValue_arr_map (fun _ => rfl) t.rows
    have hRead : Formats.readJson (t.toJson.render ++ "\n") =
        .ok (.list (t.rows.map fun row => (Table.rowObject t.headers row).toValue)) := by
      rw [Formats.readJson, Json.read_render hTextual hBlanks, hValue]
    have hRow : ∀ row ∈ t.rows,
        Table.readObject t.headers (Table.rowObject t.headers row).toValue = some (id row) :=
      fun row hRow => Table.readObject_rowObject h.distinct (h.rows row hRow).1
    have hRows := Table.mapM_map_eq_some hRow
    rw [List.map_id] at hRows
    simp only [Table.readRows, hRead]
    exact hRows
  | plain =>
    rw [hWhole (by simp [hFormat])]
    dsimp only
    rw [Table.readRows, (Table.readPlain_plain_iff t).mpr h.lines]
    exact if_pos rfl
  | rich =>
    have hFound : p.found t = fun row => Table.lineOf (t.widths p.columns) row 0 := by
      funext row
      rw [found, hFormat]
    rw [hFound]
    exact congrArg some (Table.readBoxed_boxed h.toBoxable (hLeads hFormat) p.styling)

end Presentation

end ApiLint
