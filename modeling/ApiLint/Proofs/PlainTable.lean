import ApiLint.Table
import Mathlib.Logic.Basic

/-!
# Reading plain tables

A plain table is read by splitting it at line feeds and every line at tabs. The cells are not
escaped, so this gives back the rows exactly if no cell has a tab or a line feed in it. It is enough
to look at what was read: no piece of a split contains the character that was split on.

* `Table.fitsLine_of_mem_readPlain` — whatever is read as a row fits into a line;
* `Table.readPlain_plain_iff` — the tables that are read back.
-/

namespace ApiLint

-- ---------------------------------------------------------------------------
-- Splitting and joining
-- ---------------------------------------------------------------------------

namespace Text

/-- A piece of a split consists of characters of the text, and none of them was split on. -/
theorem mem_splitOn {a : Char} {text piece : List Char} (h : piece ∈ text.splitOn a) :
    a ∉ piece ∧ ∀ c ∈ piece, c ∈ text := by
  induction text generalizing piece with
  | nil =>
    rw [List.splitOn_nil, List.mem_singleton] at h
    rw [h]
    exact ⟨List.not_mem_nil, fun _ hc => hc⟩
  | cons c text ih =>
    rw [List.splitOn_cons_eq_if_modifyHead] at h
    split at h
    · rcases List.mem_cons.mp h with rfl | h
      · exact ⟨List.not_mem_nil, fun _ hc => absurd hc List.not_mem_nil⟩
      · obtain ⟨hFree, hFrom⟩ := ih h
        exact ⟨hFree, fun c' hc' => List.mem_cons_of_mem c (hFrom c' hc')⟩
    · next hOther =>
      obtain ⟨first, rest, hSplit⟩ := List.exists_cons_of_ne_nil (List.splitOn_ne_nil a text)
      rw [hSplit, List.modifyHead_cons] at h
      rcases List.mem_cons.mp h with rfl | h
      · obtain ⟨hFree, hFrom⟩ := ih (hSplit ▸ List.mem_cons_self)
        refine ⟨?_, ?_⟩
        · rw [List.mem_cons, not_or]
          exact ⟨fun hSame => hOther (beq_iff_eq.mpr hSame.symm), hFree⟩
        · exact List.forall_mem_cons.mpr
            ⟨List.mem_cons_self, fun c' hc' => List.mem_cons_of_mem c (hFrom c' hc')⟩
      · obtain ⟨hFree, hFrom⟩ := ih (hSplit ▸ List.mem_cons_of_mem first h)
        exact ⟨hFree, fun c' hc' => List.mem_cons_of_mem c (hFrom c' hc')⟩

theorem mem_intercalate {c : Char} {separator : String} (h : c ∉ separator.toList)
    (ss : List String) :
    c ∈ (separator.intercalate ss).toList ↔ ∃ s ∈ ss, c ∈ s.toList := by
  induction ss with
  | nil => simp
  | cons s ss ih =>
    cases ss with
    | nil => simp
    | cons t ts =>
      rw [String.intercalate_cons_cons, String.toList_append, String.toList_append, List.mem_append,
        List.mem_append, or_iff_left h, ih]
      simp

end Text

namespace Table

-- ---------------------------------------------------------------------------
-- Cells
-- ---------------------------------------------------------------------------

/-- Whether a text fits into a cell: it has neither a tab nor a line feed. -/
def FitsCell (cell : String) : Prop := '\t' ∉ cell.toList ∧ '\n' ∉ cell.toList

instance (cell : String) : Decidable (FitsCell cell) := inferInstanceAs (Decidable (_ ∧ _))

theorem fitsCell_append {s t : String} : FitsCell (s ++ t) ↔ FitsCell s ∧ FitsCell t := by
  simp only [FitsCell, String.toList_append, List.mem_append, not_or]
  exact and_and_and_comm

theorem fitsCell_intercalate {separator : String} (h : FitsCell separator) (ss : List String) :
    FitsCell (separator.intercalate ss) ↔ ∀ s ∈ ss, FitsCell s := by
  simp only [FitsCell, Text.mem_intercalate h.1, Text.mem_intercalate h.2, not_exists, not_and,
    forall_and]

-- ---------------------------------------------------------------------------
-- Rows
-- ---------------------------------------------------------------------------

/-- The rows of a plain table: what stands between the line feeds, the last one of which ends the
table, split at the tabs. -/
def readPlain (text : String) : List (List String) :=
  (text.toList.splitOn '\n').dropLast.map fun line => (line.splitOn '\t').map String.ofList

/-- Whether a row fits into a line: it has cells, and each of them fits. -/
def FitsLine (row : List String) : Prop := row ≠ [] ∧ ∀ cell ∈ row, FitsCell cell

instance (row : List String) : Decidable (FitsLine row) := inferInstanceAs (Decidable (_ ∧ _))

/-- Whatever is read as a row fits into a line. -/
theorem fitsLine_of_mem_readPlain {text : String} {row : List String} (h : row ∈ readPlain text) :
    FitsLine row := by
  obtain ⟨line, hLine, rfl⟩ := List.mem_map.mp h
  obtain ⟨hNoBreak, -⟩ := Text.mem_splitOn (List.dropLast_subset _ hLine)
  refine ⟨?_, ?_⟩
  · rw [ne_eq, List.map_eq_nil_iff]
    exact List.splitOn_ne_nil '\t' line
  · intro cell hCell
    obtain ⟨piece, hPiece, rfl⟩ := List.mem_map.mp hCell
    obtain ⟨hNoTab, hFrom⟩ := Text.mem_splitOn hPiece
    rw [FitsCell, String.toList_ofList]
    exact ⟨hNoTab, fun hBreak => hNoBreak (hFrom _ hBreak)⟩

theorem splitOn_lines {lines : List (List Char)} (h : ∀ line ∈ lines, '\n' ∉ line) :
    (lines.flatMap (· ++ ['\n'])).splitOn '\n' = lines ++ [[]] := by
  induction lines with
  | nil => exact List.splitOn_nil '\n'
  | cons line lines ih =>
    obtain ⟨hLine, hLines⟩ := List.forall_mem_cons.mp h
    rw [List.flatMap_cons, List.append_assoc, List.singleton_append, List.splitOn_append_cons_self,
      List.splitOn_eq_singleton hLine, ih hLines]
    rfl

theorem splitOn_cells {row : List String} (h : FitsLine row) :
    (("\t".intercalate row).toList.splitOn '\t').map String.ofList = row := by
  obtain ⟨hCells, hFits⟩ := h
  have hSplit : ("\t".intercalate row).toList.splitOn '\t' = row.map String.toList := by
    rw [String.toList_intercalate]
    apply List.splitOn_intercalate
    · intro cell hCell
      obtain ⟨s, hs, rfl⟩ := List.mem_map.mp hCell
      exact (hFits s hs).1
    · rwa [ne_eq, List.map_eq_nil_iff]
  rw [hSplit, List.map_map]
  simp

theorem no_break_of_fitsLine {row : List String} (h : FitsLine row) :
    '\n' ∉ ("\t".intercalate row).toList := by
  rw [Text.mem_intercalate (by decide)]
  rintro ⟨cell, hCell, hBreak⟩
  exact (h.2 cell hCell).2 hBreak

theorem toList_plain (t : Table) :
    t.plain.toList =
      ((t.headers :: t.rows).map fun row => ("\t".intercalate row).toList).flatMap
        (· ++ ['\n']) := by
  rw [plain, String.toList_join, List.flatMap_map, List.flatMap_map]
  simp only [plainLine, String.toList_append]
  rfl

/-- **A plain table is read back** exactly if all its rows fit into lines. -/
theorem readPlain_plain_iff (t : Table) :
    readPlain t.plain = t.headers :: t.rows ↔ ∀ row ∈ t.headers :: t.rows, FitsLine row := by
  constructor
  · intro h row hRow
    exact fitsLine_of_mem_readPlain (h ▸ hRow)
  · intro h
    have hLines : ∀ line ∈ (t.headers :: t.rows).map fun row => ("\t".intercalate row).toList,
        '\n' ∉ line := by
      intro line hLine
      obtain ⟨row, hRow, rfl⟩ := List.mem_map.mp hLine
      exact no_break_of_fitsLine (h row hRow)
    rw [readPlain, toList_plain, splitOn_lines hLines, List.dropLast_concat, List.map_map]
    conv =>
      rhs
      rw [← List.map_id (t.headers :: t.rows)]
    apply List.map_congr_left
    intro row hRow
    exact splitOn_cells (h row hRow)

end Table

end ApiLint
