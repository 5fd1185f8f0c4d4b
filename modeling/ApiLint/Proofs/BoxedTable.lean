import ApiLint.Proofs.Layout
import ApiLint.Proofs.PlainTable
import ApiLint.Proofs.TerminalText
import Mathlib.Data.List.DropRight
import Mathlib.Data.List.GetD

/-!
# Reading boxed tables

A boxed table is drawn for people, but it can be read line by line as long as no cell has bars in
it. The lines of the body are those that begin with a light bar; between two bars stands a piece
of a cell, with blanks around it and perhaps an emphasis. Where a column is narrower than its
cells, a row goes on in further lines, and as long as the first column is wide enough, these are
the ones that begin with a blank cell.

* `Table.filter_beginsRow_rowLines` — a row begins in its first line, and nowhere else;
* `Table.Cell.Clean.readCell_bodyLine` — a piece of a cell is read back, however wide its column is;
* `Table.readLines_boxed` — what stands in the lines of a boxed table, on any terminal that has room
  for its bars;
* `Table.readBoxed_boxed` — the rows that are found in it.
-/

namespace ApiLint

namespace Table

open Terminal (Styling Emphasis dropEscapes)

-- ---------------------------------------------------------------------------
-- Reading
-- ---------------------------------------------------------------------------

/-- Whether a line belongs to the body of a boxed table. -/
def isBodyLine (line : List Char) : Bool := line.head? = some '│'

/-- A text without the blanks at its end. -/
def trimEnd (text : List Char) : String := String.ofList (text.rdropWhile (· = ' '))

/-- What stands in a cell: the blanks around it and its emphasis are no part of it. -/
def readCell (piece : List Char) : String := trimEnd ((dropEscapes false piece).drop 1)

/-- The cells between the bars of a line. -/
def readBodyLine (line : List Char) : List String :=
  ((line.splitOn '│').drop 1).dropLast.map readCell

/-- The lines of the body of a boxed table. -/
def readLines (text : String) : List (List String) :=
  ((text.toList.splitOn '\n').filter isBodyLine).map readBodyLine

/-- Whether a line begins a row, rather than going on with the one above: its first cell is not
blank. -/
def beginsRow (line : List String) : Bool := line.head? ≠ some ""

/-- The rows of a boxed table, each as far as it stands in its first line. -/
def readBoxed (text : String) : List (List String) := (readLines text).filter beginsRow

/-- What separates lines and cells and begins an escape sequence. -/
def separators : List Char := ['\n', '│', '\x1b']

/-- Whether a text fits into a box: it is a single line without bars and escape sequences, none of
its characters is dropped, and it does not end in a blank. -/
def FitsBox (text : String) : Prop :=
  (text.toList.all fun c => !separators.contains c && !Terminal.isControl c) ∧
    text.toList.getLast? ≠ some ' '

instance (text : String) : Decidable (FitsBox text) := inferInstanceAs (Decidable (_ ∧ _))

/-- A table that a box does not change: it has columns, every row has a cell in each of them, and
all texts fit. -/
structure Boxable (t : Table) : Prop where
  title : ∀ title ∈ t.title, FitsBox title
  columns : t.headers ≠ []
  headers : ∀ header ∈ t.headers, FitsBox header
  rows : ∀ row ∈ t.rows, row.length = t.headers.length ∧ ∀ cell ∈ row, FitsBox cell

theorem FitsBox.forall_mem {text : String} (h : FitsBox text) :
    ∀ c ∈ text.toList, c ∉ separators ∧ Terminal.isControl c = false := by
  intro c hc
  simpa using List.all_eq_true.mp h.1 c hc

theorem FitsBox.not_mem {text : String} (h : FitsBox text) {c : Char}
    (hc : c ∈ separators) : c ∉ text.toList :=
  fun hText => (h.forall_mem c hText).1 hc

theorem FitsBox.dropControls_eq {text : String} (h : FitsBox text) :
    Terminal.dropControls text = text :=
  Terminal.dropControls_of_all fun c hc => (h.forall_mem c hc).2

theorem trimEnd_append_blanks (text : List Char) (n : Nat) :
    trimEnd (text ++ List.replicate n ' ') = trimEnd text := by
  induction n with
  | zero => rw [List.replicate_zero, List.append_nil]
  | succ n ih =>
    rw [List.replicate_succ', ← List.append_assoc, trimEnd,
      List.rdropWhile_concat_pos _ _ _ (by simp)]
    exact ih

theorem FitsBox.trimEnd_eq {text : String} (h : FitsBox text) : trimEnd text.toList = text := by
  have hAll : text.toList.rdropWhile (· = ' ') = text.toList := by
    rw [List.rdropWhile_eq_self_iff]
    intro hSome hBlank
    have hLast := h.2
    rw [List.getLast?_eq_some_getLast hSome] at hLast
    exact hLast (congrArg some (of_decide_eq_true hBlank))
  rw [trimEnd, hAll, String.ofList_toList]

-- ---------------------------------------------------------------------------
-- What stands in a row
-- ---------------------------------------------------------------------------

/-- The lines of a text in a column of some width. -/
def pieces (width : Nat) (text : String) : List String :=
  if width ≤ padding then [] else Text.wrap (width - padding) text

/-- A line of a row: it has a piece of every text. -/
def lineOf (widths : List Nat) (row : List String) (i : Nat) : List String :=
  (widths.zip row).map fun (w, text) => trimEnd ((pieces w text).getD i "").toList

/-- The lines of a row. -/
def rowLines (widths : List Nat) (row : List String) : List (List String) :=
  let height := ((widths.zip row).map fun (w, text) => (pieces w text).length).foldl max 0
  (List.range (max height 1)).map (lineOf widths row)

@[simp] theorem lineOf_cons (width : Nat) (text : String) (widths : List Nat) (row : List String)
    (i : Nat) : lineOf (width :: widths) (text :: row) i =
      trimEnd ((pieces width text).getD i "").toList :: lineOf widths row i := rfl

/-- No piece of a text is wider than its column has room for. -/
theorem length_piece_le (width : Nat) (text : String) (i : Nat) :
    (trimEnd ((pieces width text).getD i "").toList).length ≤ width - padding := by
  have hPiece : ((pieces width text).getD i "").length ≤ width - padding := by
    rw [List.getD_eq_getElem?_getD]
    cases hLine : (pieces width text)[i]? with
    | none => simp
    | some line =>
      have hMem := List.mem_of_getElem? hLine
      unfold pieces at hMem
      split at hMem
      · cases hMem
      · exact Text.length_le_of_mem_wrap hMem
  have hTrim := (List.rdropWhile_prefix (· = ' ')
    (l := ((pieces width text).getD i "").toList)).length_le
  rw [trimEnd, String.length_ofList]
  rw [← String.length_toList] at hPiece
  exact hTrim.trans hPiece

section Pieces

variable {width : Nat} {text : String} (hRoom : text.length + padding ≤ width)

include hRoom

/-- A column that has room for a text has it in its first line, and nothing below. -/
theorem pieces_of_room :
    (pieces width text).getD 0 "" = text ∧ ∀ i, (pieces width text).getD (i + 1) "" = "" := by
  unfold pieces
  split
  · next hNarrow =>
    have hEmpty : text = "" := by
      rw [← String.length_eq_zero_iff]
      omega
    subst hEmpty
    simp
  · rw [Text.wrap_of_fits (by omega)]
    simp

/-- A row begins in the line in which its first cell stands, and nowhere else. -/
theorem filter_beginsRow_rowLines (hFits : FitsBox text) (hSome : text ≠ "") (widths : List Nat)
    (row : List String) :
    (rowLines (width :: widths) (text :: row)).filter beginsRow =
      [lineOf (width :: widths) (text :: row) 0] := by
  obtain ⟨hFirst, hBelow⟩ := pieces_of_room hRoom
  have hBegins : beginsRow (lineOf (width :: widths) (text :: row) 0) := by
    rw [lineOf_cons, hFirst, hFits.trimEnd_eq]
    simpa [beginsRow] using hSome
  have hGoesOn : ∀ i, ¬ beginsRow (lineOf (width :: widths) (text :: row) (i + 1)) := by
    intro i
    rw [lineOf_cons, hBelow]
    simp [beginsRow, trimEnd]
  have hHeight : ∀ n, max n 1 = (n - 1) + 1 := by omega
  have hRest : ∀ n, (((List.range n).map Nat.succ).map
      (lineOf (width :: widths) (text :: row))).filter beginsRow = [] := by
    intro n
    rw [List.filter_eq_nil_iff, List.forall_mem_map, List.forall_mem_map]
    exact fun i _ => hGoesOn i
  rw [rowLines, hHeight, List.range_succ_eq_map, List.map_cons, List.filter_cons_of_pos hBegins,
    hRest]

end Pieces

-- ---------------------------------------------------------------------------
-- Cells
-- ---------------------------------------------------------------------------

theorem toList_blanks (n : Nat) : (blanks n).toList = List.replicate n ' ' := by
  rw [blanks, String.toList_ofList]

theorem dropEscapes_blanks (n : Nat) :
    dropEscapes false (List.replicate n ' ') = List.replicate n ' ' := by
  have hBlanks : '\x1b' ∉ List.replicate n ' ' := by simp
  have hDrop := Terminal.dropEscapes_append hBlanks []
  rwa [dropEscapes, List.append_nil] at hDrop

theorem ofText_of_fits {text : String} (h : FitsBox text) (emphasis : Option Emphasis) :
    Cell.ofText text emphasis = ⟨[text], emphasis⟩ := by
  have hBreak : '\n' ∉ text.toList := h.not_mem (by decide)
  have hLines : text.splitOn "\n" = [text] := Text.splitOn_of_not_mem hBreak
  rw [Cell.ofText, h.dropControls_eq, hLines]

/-- Bars and line breaks are neither part of an emphasis nor blanks. -/
theorem not_sign {c : Char} (hc : c ∈ ['\n', '│']) :
    c ∉ Emphasis.signs ∧ c ≠ ' ' ∧ c ∈ separators := by
  simp only [List.mem_cons, List.not_mem_nil, or_false] at hc
  rcases hc with rfl | rfl
  · decide
  · decide

namespace Cell

/-- A cell whose lines can be told from the box around them. -/
structure Clean (c : Cell) : Prop where
  lines : ∀ line ∈ c.lines, ∀ sign ∈ line.toList, sign ∉ separators
  emphasis : ∀ e ∈ c.emphasis, e.Numeric

/-- Breaking the lines of a cell brings no separators into it. -/
theorem Clean.within {c : Cell} (h : c.Clean) (width : Nat) : (c.within width).Clean := by
  refine ⟨?_, h.emphasis⟩
  intro line hLine sign hSign
  rw [Cell.within] at hLine
  dsimp only at hLine
  split at hLine
  · cases hLine
  · obtain ⟨whole, hWhole, hLine⟩ := List.mem_flatMap.mp hLine
    exact h.lines whole hWhole sign (Text.mem_of_mem_wrap hLine hSign)

theorem Clean.getD {c : Cell} (h : c.Clean) (i : Nat) :
    ∀ sign ∈ (c.lines.getD i "").toList, sign ∉ separators := by
  rw [List.getD_eq_getElem?_getD]
  cases hLine : c.lines[i]? with
  | none => simp
  | some line => exact h.lines line (List.mem_of_getElem? hLine)

section Body

variable {c : Cell} (styling : Styling) (width i : Nat)

/-- The piece of a cell in a line of the body, as it is shown. -/
def shown (styling : Styling) (c : Cell) (i : Nat) : String :=
  match c.emphasis with
  | some e => e.apply styling (c.lines.getD i "")
  | none => c.lines.getD i ""

theorem bodyLine_cases (c : Cell) :
    c.lines.getD i "" = "" ∧ (bodyLine styling width c i).toList = List.replicate width ' ' ∨
      ∃ n, (bodyLine styling width c i).toList =
        ' ' :: ((shown styling c i).toList ++ List.replicate n ' ') := by
  unfold bodyLine
  split
  · next line hLine =>
    refine .inr ⟨width - padding - line.length + 1, ?_⟩
    have hPiece : c.lines.getD i "" = line := by
      rw [List.getD_eq_getElem?_getD, hLine, Option.getD_some]
    rw [shown, hPiece, List.replicate_succ']
    simp only [fill, String.toList_append, toList_blanks, List.append_assoc]
    rfl
  · next hLine =>
    refine .inl ⟨?_, toList_blanks width⟩
    rw [List.getD_eq_getElem?_getD, hLine, Option.getD_none]

variable (h : c.Clean)

include h

theorem Clean.dropEscapes_shown (rest : List Char) :
    dropEscapes false ((shown styling c i).toList ++ rest) =
      (c.lines.getD i "").toList ++ dropEscapes false rest := by
  have hText : '\x1b' ∉ (c.lines.getD i "").toList := fun hEscape =>
    h.getD i _ hEscape (by decide)
  unfold shown
  split
  · next e hEmphasis => exact Emphasis.dropEscapes_apply (h.emphasis e hEmphasis) styling hText rest
  · exact Terminal.dropEscapes_append hText rest

theorem Clean.not_mem_shown {sign : Char} (hSign : sign ∈ ['\n', '│']) :
    sign ∉ (shown styling c i).toList := by
  obtain ⟨hNoSign, -, hSeparator⟩ := not_sign hSign
  have hText : sign ∉ (c.lines.getD i "").toList := fun hMem => h.getD i _ hMem hSeparator
  unfold shown
  split
  · next e hEmphasis =>
    exact fun hMem => hText (Emphasis.mem_of_mem_apply (h.emphasis e hEmphasis) hNoSign hMem)
  · exact hText

/-- **A piece of a cell is read back**, however wide its column is. -/
theorem Clean.readCell_bodyLine :
    readCell (bodyLine styling width c i).toList = trimEnd (c.lines.getD i "").toList := by
  rcases bodyLine_cases styling width i c with ⟨hEmpty, hLine⟩ | ⟨n, hLine⟩
  · rw [readCell, hLine, dropEscapes_blanks, List.drop_replicate, hEmpty]
    exact trimEnd_append_blanks [] _
  · rw [readCell, hLine, dropEscapes, if_neg (by decide), h.dropEscapes_shown, dropEscapes_blanks,
      List.drop_one, List.tail_cons, trimEnd_append_blanks]

theorem Clean.not_mem_bodyLine {sign : Char} (hSign : sign ∈ ['\n', '│']) :
    sign ∉ (bodyLine styling width c i).toList := by
  have hBlank := (not_sign hSign).2.1
  rcases bodyLine_cases styling width i c with ⟨-, hLine⟩ | ⟨n, hLine⟩
  · simp [hLine, hBlank]
  · simp [hLine, hBlank, h.not_mem_shown styling i hSign]

theorem Clean.not_mem_headerLine (height : Nat) :
    '\n' ∉ (headerLine styling height width c i).toList := by
  have hApply : ∀ text : String, '\n' ∉ text.toList →
      '\n' ∉ (Emphasis.header.apply styling text).toList := fun text hText hMem =>
    hText (Emphasis.mem_of_mem_apply (by decide) (by decide) hMem)
  have hBlanks : ∀ n, '\n' ∉ (blanks n).toList := by
    intro n
    rw [toList_blanks]
    simp
  have hBlank : '\n' ∉ " ".toList := by decide
  have hFilled : ∀ j, '\n' ∉ (fill width (c.lines.getD j "") (c.lines.getD j "")).toList := by
    intro j
    rw [fill, String.toList_append, List.mem_append, not_or]
    exact ⟨fun hMem => h.getD j _ hMem (by decide), hBlanks _⟩
  unfold headerLine
  dsimp only
  split
  · exact hBlanks _
  · split
    · exact hApply _ (hBlanks _)
    · simp only [String.toList_append, List.mem_append, not_or]
      exact ⟨⟨hApply _ hBlank, hApply _ (hFilled _)⟩, hApply _ hBlank⟩

end Body

/-- The first line of a cell. -/
def text (c : Cell) : String := c.lines.getD 0 ""

/-- A cell that holds a text that fits. -/
structure Simple (c : Cell) : Prop where
  lines : c.lines = [c.text]
  fits : FitsBox c.text
  emphasis : ∀ e ∈ c.emphasis, e.Numeric

theorem Simple.clean {c : Cell} (h : c.Simple) : c.Clean := by
  refine ⟨?_, h.emphasis⟩
  rw [h.lines, List.forall_mem_singleton]
  exact fun sign hSign => (h.fits.forall_mem sign hSign).1

/-- The lines of such a cell in a column. -/
theorem Simple.lines_within {c : Cell} (h : c.Simple) (width : Nat) :
    (c.within width).lines = pieces width c.text := by
  rw [Cell.within, h.lines, List.flatMap_singleton]
  rfl

theorem Simple.width_eq {c : Cell} (h : c.Simple) : c.width = c.text.length + padding := by
  rw [Cell.width, h.lines]
  simp

end Cell

-- ---------------------------------------------------------------------------
-- Lines
-- ---------------------------------------------------------------------------

/-- Whether texts are single lines, and these are the lines of a body among them. -/
def Draws (lines : List String) (body : List (List Char)) : Prop :=
  (∀ line ∈ lines, '\n' ∉ line.toList) ∧ (lines.map String.toList).filter isBodyLine = body

namespace Draws

theorem empty : Draws [] [] := ⟨by simp, rfl⟩

theorem append {ss ts : List String} {a b : List (List Char)} (hs : Draws ss a) (ht : Draws ts b) :
    Draws (ss ++ ts) (a ++ b) := by
  obtain ⟨hFree, rfl⟩ := hs
  obtain ⟨hFree', rfl⟩ := ht
  refine ⟨List.forall_mem_append.mpr ⟨hFree, hFree'⟩, ?_⟩
  rw [List.map_append, List.filter_append]

theorem flatMap {α : Type} {f : α → List String} {g : α → List (List Char)} {xs : List α}
    (h : ∀ x ∈ xs, Draws (f x) (g x)) : Draws (xs.flatMap f) (xs.flatMap g) := by
  induction xs with
  | nil => exact empty
  | cons x xs ih =>
    obtain ⟨hx, hxs⟩ := List.forall_mem_cons.mp h
    exact hx.append (ih hxs)

/-- Lines that begin with a light bar are all part of the body. -/
theorem rows {lines : List String}
    (h : ∀ line ∈ lines, '\n' ∉ line.toList ∧ line.toList.head? = some '│') :
    Draws lines (lines.map String.toList) := by
  refine ⟨fun line hLine => (h line hLine).1, ?_⟩
  rw [List.filter_eq_self, List.forall_mem_map]
  intro line hLine
  simpa [isBodyLine] using (h line hLine).2

/-- Lines that do not begin with a light bar are no part of a body. -/
theorem frames {lines : List String}
    (h : ∀ line ∈ lines, '\n' ∉ line.toList ∧ line.toList.head? ≠ some '│') : Draws lines [] := by
  refine ⟨fun line hLine => (h line hLine).1, ?_⟩
  rw [List.filter_eq_nil_iff, List.forall_mem_map]
  intro line hLine
  simpa [isBodyLine] using (h line hLine).2

theorem frame {line : String} (hBreak : '\n' ∉ line.toList)
    (hBegin : line.toList.head? ≠ some '│') : Draws [line] [] :=
  frames (List.forall_mem_singleton.mpr ⟨hBreak, hBegin⟩)

theorem readLines_eq {lines : List String} {body : List (List Char)} (h : Draws lines body) :
    readLines (String.join (lines.map (· ++ "\n"))) = body.map readBodyLine := by
  obtain ⟨hFree, rfl⟩ := h
  have hText : (String.join (lines.map (· ++ "\n"))).toList =
      (lines.map String.toList).flatMap (· ++ ['\n']) := by
    rw [String.toList_join, List.flatMap_map, List.flatMap_map]
    simp [String.toList_append]
  have hEnd : [([] : List Char)].filter isBodyLine = [] := rfl
  rw [readLines, hText, splitOn_lines (List.forall_mem_map.mpr hFree), List.filter_append, hEnd,
    List.append_nil]

end Draws

/-- An edge begins with a corner, and there is no line break in it. -/
theorem Edge.draws {edge : Edge} (hEdge : edge ∈ [top, middle, bottom]) (widths : List Nat) :
    Draws [edge.draw widths] [] := by
  obtain ⟨hLeft, hStroke, hCrossing, hRight, hBegin⟩ :
      '\n' ∉ edge.left.toList ∧ '\n' ≠ edge.stroke ∧ '\n' ∉ edge.crossing.toList ∧
        '\n' ∉ edge.right.toList ∧ ∃ c, c ≠ '│' ∧ edge.left.toList = [c] := by
    simp only [List.mem_cons, List.not_mem_nil, or_false] at hEdge
    rcases hEdge with rfl | rfl | rfl
    · exact ⟨by decide, by decide, by decide, by decide, '┏', by decide, rfl⟩
    · exact ⟨by decide, by decide, by decide, by decide, '┡', by decide, rfl⟩
    · exact ⟨by decide, by decide, by decide, by decide, '└', by decide, rfl⟩
  obtain ⟨c, hc, hCorner⟩ := hBegin
  have hStrokes : ∀ s ∈ widths.map fun w => String.ofList (List.replicate w edge.stroke),
      '\n' ∉ s.toList := by
    intro s hs
    obtain ⟨w, -, rfl⟩ := List.mem_map.mp hs
    rw [String.toList_ofList, List.mem_replicate]
    exact fun h => hStroke h.2
  refine Draws.frame ?_ ?_
  · simp only [Edge.draw, String.toList_append, List.mem_append, Text.mem_intercalate hCrossing]
    rintro ((hMem | ⟨s, hs, hMem⟩) | hMem)
    · exact hLeft hMem
    · exact hStrokes s hs hMem
    · exact hRight hMem
  · simp [Edge.draw, hCorner, hc]

-- ---------------------------------------------------------------------------
-- Rows
-- ---------------------------------------------------------------------------

theorem severityEmphasis?_numeric (text : String) : ∀ e ∈ severityEmphasis? text, e.Numeric := by
  intro e he
  unfold severityEmphasis? at he
  split at he
  · cases he
    decide
  · cases he
    decide
  · cases he
    decide
  · cases he

theorem not_mem_row {bar : String} {parts : List String} (hBar : '\n' ∉ bar.toList)
    (hParts : ∀ part ∈ parts, '\n' ∉ part.toList) :
    '\n' ∉ (bar ++ bar.intercalate parts ++ bar).toList := by
  simp only [String.toList_append, List.mem_append, Text.mem_intercalate hBar, not_or, not_exists,
    not_and]
  exact ⟨⟨hBar, hParts⟩, hBar⟩

theorem readBodyLine_bars {parts : List String} (hSome : parts ≠ [])
    (hBars : ∀ part ∈ parts, '│' ∉ part.toList) :
    readBodyLine ("│" ++ "│".intercalate parts ++ "│").toList =
      parts.map fun part => readCell part.toList := by
  have hPieces : ∀ piece ∈ parts.map String.toList, '│' ∉ piece := List.forall_mem_map.mpr hBars
  have hSplit : ("│" ++ "│".intercalate parts ++ "│").toList.splitOn '│' =
      [] :: (parts.map String.toList ++ [[]]) := by
    have hLine : ("│" ++ "│".intercalate parts ++ "│").toList =
        [] ++ '│' :: (['│'].intercalate (parts.map String.toList) ++ '│' :: []) := by
      rw [String.toList_append, String.toList_append, String.toList_intercalate]
      rfl
    rw [hLine, List.splitOn_append_cons_self, List.splitOn_append_cons_self, List.splitOn_nil,
      List.splitOn_intercalate _ hPieces (by simpa using hSome), List.singleton_append]
  rw [readBodyLine, hSplit, List.drop_one, List.tail_cons, List.dropLast_concat, List.map_map]
  rfl

section Row

variable {cells : List Cell} (styling : Styling) (hCells : ∀ c ∈ cells, c.Simple)
  (widths : List Nat)

include hCells

/-- A row of headers has heavy bars, so no line of a body begins like it. -/
theorem draws_headers : Draws (drawRow "┃" (Cell.headerLine styling) widths cells) [] := by
  refine Draws.frames (List.forall_mem_map.mpr fun i _ => ⟨?_, by simp⟩)
  refine not_mem_row (by decide) fun part hPart => ?_
  obtain ⟨p, hp, rfl⟩ := List.mem_map.mp hPart
  obtain ⟨⟨w, c⟩, hc, rfl⟩ := List.mem_map.mp hp
  exact ((hCells c (List.of_mem_zip hc).2).clean.within w).not_mem_headerLine styling w i _

/-- The lines of a row are read back. -/
theorem draws_row (hSome : widths.zip cells ≠ []) :
    ∃ lines, Draws (drawRow "│" (fun _ => Cell.bodyLine styling) widths cells) lines ∧
      lines.map readBodyLine = rowLines widths (cells.map Cell.text) := by
  have hClean : ∀ p ∈ widths.zip cells, (p.2.within p.1).Clean := fun p hp =>
    (hCells p.2 (List.of_mem_zip hp).2).clean.within p.1
  have hLines : ∀ p ∈ widths.zip cells, (p.2.within p.1).lines = pieces p.1 p.2.text := fun p hp =>
    (hCells p.2 (List.of_mem_zip hp).2).lines_within p.1
  have hDrawn : drawRow "│" (fun _ => Cell.bodyLine styling) widths cells =
      (List.range (max (((widths.zip cells).map fun p =>
        (pieces p.1 p.2.text).length).foldl max 0) 1)).map fun i =>
          "│" ++ "│".intercalate ((widths.zip cells).map fun p =>
            Cell.bodyLine styling p.1 (p.2.within p.1) i) ++ "│" := by
    have hHeight : (widths.zip cells).map (fun p => (p.2.within p.1).lines.length) =
        (widths.zip cells).map fun p => (pieces p.1 p.2.text).length :=
      List.map_congr_left fun p hp => congrArg List.length (hLines p hp)
    rw [← hHeight]
    simp only [drawRow, List.map_map]
    rfl
  have hFree : ∀ sign ∈ ['
', '│'], ∀ i, ∀ part ∈ (widths.zip cells).map fun p =>
      Cell.bodyLine styling p.1 (p.2.within p.1) i, sign ∉ part.toList := by
    intro sign hSign i part hPart
    obtain ⟨p, hp, rfl⟩ := List.mem_map.mp hPart
    exact (hClean p hp).not_mem_bodyLine styling p.1 i hSign
  rw [hDrawn]
  refine ⟨_, Draws.rows (List.forall_mem_map.mpr fun i _ => ⟨?_, by simp⟩), ?_⟩
  · exact not_mem_row (by decide) (hFree '
' (by decide) i)
  · have hZip : widths.zip (cells.map Cell.text) =
        (widths.zip cells).map fun p => (p.1, p.2.text) := List.zip_map_right
    rw [rowLines, hZip, List.map_map, List.map_map, List.map_map]
    refine List.map_congr_left fun i _ => ?_
    have hNotNil : ((widths.zip cells).map fun p =>
        Cell.bodyLine styling p.1 (p.2.within p.1) i) ≠ [] := by
      simpa using hSome
    refine (readBodyLine_bars hNotNil (hFree '│' (by decide) i)).trans ?_
    rw [lineOf, hZip, List.map_map, List.map_map]
    refine List.map_congr_left fun p hp => ?_
    dsimp only [Function.comp_apply]
    rw [(hClean p hp).readCell_bodyLine styling p.1 i, hLines p hp]

end Row

-- ---------------------------------------------------------------------------
-- Tables
-- ---------------------------------------------------------------------------

namespace Boxable

variable {t : Table}

theorem columnCount_eq (h : t.Boxable) : t.columnCount = t.headers.length := by
  have hFold : ∀ rows : List (List String), (∀ row ∈ rows, row.length = t.headers.length) →
      (rows.map List.length).foldl max t.headers.length = t.headers.length := by
    intro rows hRows
    induction rows with
    | nil => rfl
    | cons row rows ih =>
      obtain ⟨hRow, hRest⟩ := List.forall_mem_cons.mp hRows
      rw [List.map_cons, List.foldl_cons, hRow, Nat.max_self, ih hRest]
  exact hFold t.rows fun row hRow => (h.rows row hRow).1

theorem simple_ofText {text : String} (hFits : FitsBox text) {emphasis : Option Emphasis}
    (hEmphasis : ∀ e ∈ emphasis, e.Numeric) :
    (Cell.ofText text emphasis).Simple ∧ (Cell.ofText text emphasis).text = text := by
  rw [ofText_of_fits hFits]
  exact ⟨⟨rfl, hFits, hEmphasis⟩, rfl⟩

/-- The cells of texts that fit. -/
theorem simple_cells {texts : List String} (hFits : ∀ text ∈ texts, FitsBox text)
    {emphasis : Nat → Option Emphasis} (hEmphasis : ∀ i, ∀ e ∈ emphasis i, e.Numeric) :
    let cells := (List.range texts.length).map fun i => Cell.ofText (texts.getD i "") (emphasis i)
    (∀ c ∈ cells, c.Simple) ∧ cells.map Cell.text = texts := by
  have hCell : ∀ i ∈ List.range texts.length, FitsBox (texts.getD i "") := by
    intro i hi
    rw [List.getD_eq_getElem _ _ (List.mem_range.mp hi)]
    exact hFits _ (List.getElem_mem _)
  refine ⟨List.forall_mem_map.mpr fun i hi => (simple_ofText (hCell i hi) (hEmphasis i)).1, ?_⟩
  have hTexts : (List.range texts.length).map (fun i => texts.getD i "") = texts := by
    apply List.ext_getElem (by simp)
    intro i hi hi'
    rw [List.getElem_map, List.getElem_range, List.getD_eq_getElem _ _ hi']
  rw [List.map_map]
  conv_rhs => rw [← hTexts]
  exact List.map_congr_left fun i hi => (simple_ofText (hCell i hi) (hEmphasis i)).2

theorem simple_headerCells (h : t.Boxable) :
    (∀ c ∈ t.headerCells, c.Simple) ∧ t.headerCells.map Cell.text = t.headers := by
  rw [headerCells, h.columnCount_eq]
  exact simple_cells h.headers (by simp)

theorem simple_bodyCells (h : t.Boxable) {row : List String} (hRow : row ∈ t.rows) :
    (∀ c ∈ t.bodyCells row, c.Simple) ∧ (t.bodyCells row).map Cell.text = row := by
  obtain ⟨hLength, hFits⟩ := h.rows row hRow
  rw [bodyCells, h.columnCount_eq, ← hLength]
  refine simple_cells hFits fun i => ?_
  split
  · exact severityEmphasis?_numeric _
  · simp

/-- The natural width of a column is that of its widest text. -/
theorem naturalWidths_eq (h : t.Boxable) :
    t.naturalWidths = (List.range t.headers.length).map fun i =>
      ((t.headers :: t.rows).map fun row => (row.getD i "").length + padding).foldl max 0 := by
  have hWidth : ∀ cells : List Cell, (∀ c ∈ cells, c.Simple) → ∀ i < cells.length,
      ((cells[i]?).map Cell.width).getD 0 =
        ((cells.map Cell.text).getD i "").length + padding := by
    intro cells hCells i hi
    rw [List.getElem?_eq_getElem hi, Option.map_some, Option.getD_some,
      (hCells _ (List.getElem_mem hi)).width_eq, List.getD_eq_getElem _ _ (by simpa using hi),
      List.getElem_map]
  obtain ⟨hSimple, hTexts⟩ := h.simple_headerCells
  rw [naturalWidths, h.columnCount_eq]
  refine List.map_congr_left fun i hi => congrArg (List.foldl max 0) ?_
  have hi := List.mem_range.mp hi
  rw [List.map_cons, List.map_cons, List.map_map, hWidth _ hSimple i (by simpa [headerCells,
    h.columnCount_eq] using hi), hTexts]
  refine congrArg _ (List.map_congr_left fun row hRow => ?_)
  obtain ⟨hSimple, hTexts⟩ := h.simple_bodyCells hRow
  dsimp only [Function.comp_apply]
  rw [hWidth _ hSimple i (by simpa [bodyCells, h.columnCount_eq] using hi), hTexts]

end Boxable

section Title

variable {title : String} (h : FitsBox title) (styling : Styling) (columns width : Nat)

include h

/-- A line of the headline has characters of the title and blanks, and some that emphasise them. -/
theorem not_mem_titleLine {line : String} (hLine : line ∈ Text.wrap width title) {c : Char}
    (hc : c ∈ ['\n', '│']) : c ∉ (titleLine styling columns width line).toList := by
  obtain ⟨hNoSign, hBlank, hUnfit⟩ := not_sign hc
  have hTitle : c ∉ line.toList := fun hMem =>
    h.not_mem hUnfit (Text.mem_of_mem_wrap hLine hMem)
  have hTrimmed : c ∉ (line.toList.reverse.dropWhile Text.isBlank).reverse := by
    rw [List.mem_reverse]
    exact fun hMem => hTitle (List.mem_reverse.mp ((List.dropWhile_sublist _).mem hMem))
  intro hMem
  have hMem := Emphasis.mem_of_mem_apply (by decide) hNoSign hMem
  rw [crop, String.toList_ofList] at hMem
  have hMem := List.mem_of_mem_take hMem
  simp only [String.toList_append, toList_blanks, String.toList_ofList, List.mem_append,
    List.mem_replicate] at hMem
  rcases hMem with (⟨-, hMem⟩ | hMem) | ⟨-, hMem⟩
  · exact hBlank hMem
  · exact hTrimmed hMem
  · exact hBlank hMem

theorem draws_title :
    Draws ((((Terminal.dropControls title).splitOn "\n").flatMap (Text.wrap width)).map
      (titleLine styling columns width)) [] := by
  have hBreak : '\n' ∉ title.toList := h.not_mem (by decide)
  have hLines : title.splitOn "\n" = [title] := Text.splitOn_of_not_mem hBreak
  rw [h.dropControls_eq, hLines, List.flatMap_singleton]
  refine Draws.frames (List.forall_mem_map.mpr fun line hLine => ⟨?_, ?_⟩)
  · exact not_mem_titleLine h styling columns width hLine (by decide)
  · intro hBegin
    exact not_mem_titleLine h styling columns width hLine (by decide : '│' ∈ ['\n', '│'])
      (List.mem_of_mem_head? hBegin)

end Title

theorem Boxable.draws_titleLines {t : Table} (h : t.Boxable) (styling : Styling)
    (columns width : Nat) : Draws (t.titleLines styling columns width) [] := by
  unfold titleLines
  split
  · exact Draws.empty
  · exact Draws.empty
  · next title _ hTitle => exact draws_title (h.title title hTitle) styling columns width

/-- The lines below the headline have the rows of the table among them. -/
theorem Boxable.draws_frame {t : Table} (h : t.Boxable) (styling : Styling) {widths : List Nat}
    (hWidths : widths.length = t.columnCount) :
    ∃ lines, Draws (t.frame styling widths) lines ∧
      lines.map readBodyLine = t.rows.flatMap (rowLines widths) := by
  have hColumns : t.columnCount ≠ 0 := by
    rw [h.columnCount_eq, ne_eq, List.length_eq_zero_iff]
    exact h.columns
  have hRow : ∀ row ∈ t.rows, ∃ lines,
      Draws (drawRow "│" (fun _ => Cell.bodyLine styling) widths (t.bodyCells row)) lines ∧
        lines.map readBodyLine = rowLines widths row := by
    intro row hRow
    obtain ⟨hCells, hTexts⟩ := h.simple_bodyCells hRow
    have hSome : widths.zip (t.bodyCells row) ≠ [] := by
      rw [ne_eq, ← List.length_eq_zero_iff, List.length_zip, hWidths, bodyCells, List.length_map,
        List.length_range, Nat.min_self]
      exact hColumns
    have hDraws := draws_row styling hCells widths hSome
    rwa [hTexts] at hDraws
  choose! lines hDraws hRead using hRow
  refine ⟨t.rows.flatMap lines, ?_, ?_⟩
  · have hFrame : Draws (t.frame styling widths)
        ([] ++ [] ++ [] ++ t.rows.flatMap lines ++ []) :=
      .append (.append (.append (.append (Edge.draws (by simp) _)
        (draws_headers styling h.simple_headerCells.1 widths)) (Edge.draws (by simp) _))
        (.flatMap hDraws)) (Edge.draws (by simp) _)
    simpa using hFrame
  · rw [List.map_flatMap]
    exact List.flatMap_congr hRead

/-- **What stands in the lines of a boxed table**, if the terminal has room for its bars. -/
theorem readLines_boxed {t : Table} (h : t.Boxable) {columns : Nat}
    (hBars : bars t.columnCount ≤ columns) (styling : Styling) :
    readLines (t.boxed styling columns) = t.rows.flatMap (rowLines (t.widths columns)) := by
  have hColumns : t.columnCount ≠ 0 := by
    rw [h.columnCount_eq, ne_eq, List.length_eq_zero_iff]
    exact h.columns
  have hSome : columns ≠ 0 := by
    rw [bars] at hBars
    omega
  have hSpan := span_widths_le hBars
  obtain ⟨lines, hFrame, hRead⟩ := h.draws_frame styling (length_widths t columns)
  have hTable := (h.draws_titleLines styling columns (span (t.widths columns))).append hFrame
  rw [boxed, if_neg hSome, if_neg hColumns]
  dsimp only
  rw [if_neg (Nat.not_lt.mpr hSpan), hTable.readLines_eq, List.nil_append]
  exact hRead

/-- Whether the first column shows where the rows of a table begin: the terminal has room for it and
for all bars, and it has a text in every row. -/
structure Leads (columns : Nat) (t : Table) : Prop where
  bars : bars t.columnCount ≤ columns
  first : ∀ row ∈ t.rows, ∃ text ∈ row.head?, text ≠ "" ∧
    ∃ width ∈ (t.widths columns).head?, text.length + padding ≤ width

/-- **The rows of a boxed table are found** if the first column shows where they begin. -/
theorem readBoxed_boxed {t : Table} (h : t.Boxable) {columns : Nat} (hLeads : t.Leads columns)
    (styling : Styling) :
    readBoxed (t.boxed styling columns) =
      t.rows.map (fun row => lineOf (t.widths columns) row 0) := by
  rw [readBoxed, readLines_boxed h hLeads.bars, List.filter_flatMap, List.map_eq_flatMap]
  apply List.flatMap_congr
  intro row hRow
  obtain ⟨text, hText, hSome, width, hWidth, hRoom⟩ := hLeads.first row hRow
  have hFits := (h.rows row hRow).2 text (List.mem_of_mem_head? hText)
  obtain ⟨row, rfl⟩ := List.head?_eq_some_iff.mp hText
  obtain ⟨widths, hWidths⟩ := List.head?_eq_some_iff.mp hWidth
  rw [hWidths]
  exact filter_beginsRow_rowLines hRoom hFits hSome widths row

end Table

end ApiLint
