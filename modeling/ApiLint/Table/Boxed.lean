import ApiLint.Table
import ApiLint.Terminal

/-!
# Boxed tables

The form of a table for people: cells in columns with lines around them, the headers emphasised,
and severities in the column of that name emphasised by what they are. A table that is wider than
the terminal is drawn in narrower columns, in which the cells go on from line to line; the widest
columns give way first. Every character is one column of the terminal wide.

* `Table.widths` — the widths of the columns;
* `Table.boxed` — the whole table.
-/

namespace ApiLint.Table

/-- The column in which severities are emphasised. -/
def severityHeader : String := "Severity"

/-- How the name of a severity is emphasised. -/
def severityEmphasis? : String → Option Terminal.Emphasis
  | "error" => some .error
  | "warning" => some .warning
  | "off" => some .off
  | _ => none

/-- Blanks. -/
def blanks (n : Nat) : String := String.ofList (List.replicate n ' ')

/-- The columns that the blanks on both sides of a cell take. -/
def padding : Nat := 2

-- ---------------------------------------------------------------------------
-- Cells
-- ---------------------------------------------------------------------------

/-- A cell: its lines and how they are emphasised. -/
structure Cell where
  lines : List String
  emphasis : Option Terminal.Emphasis

namespace Cell

/-- The cell of a text. -/
def ofText (text : String) (emphasis : Option Terminal.Emphasis) : Cell :=
  ⟨(Terminal.dropControls text).splitOn "\n", emphasis⟩

/-- The width of a cell: that of its widest line and of the blanks on both sides. -/
def width (c : Cell) : Nat := (c.lines.map String.length).foldl max 0 + padding

/-- A cell in a column. A column of blanks alone has no room for lines. -/
def within (width : Nat) (c : Cell) : Cell :=
  { c with lines := if width ≤ padding then [] else c.lines.flatMap (Text.wrap (width - padding)) }

/-- A text and the blanks that fill it up to the width of a column. -/
def fill (width : Nat) (line shown : String) : String :=
  shown ++ blanks (width - padding - line.length)

/-- A line of the body of a table. Only the text itself is emphasised. -/
def bodyLine (styling : Terminal.Styling) (width : Nat) (c : Cell) (index : Nat) : String :=
  match c.lines[index]? with
  | some line =>
    let shown := match c.emphasis with
      | some e => e.apply styling line
      | none => line
    " " ++ fill width line shown ++ " "
  | none => blanks width

/-- A line of a header in a row of some height. Its text stands at the bottom, and the blanks around
it are emphasised with it. -/
def headerLine (styling : Terminal.Styling) (height width : Nat) (c : Cell) (index : Nat) :
    String :=
  let emphasised := Terminal.Emphasis.header.apply styling
  let above := height - c.lines.length
  if height = 0 then blanks width
  else if index < above then emphasised (blanks width)
  else
    let line := c.lines.getD (index - above) ""
    emphasised " " ++ emphasised (fill width line line) ++ emphasised " "

end Cell

/-- A horizontal line of a box: its ends, its strokes and its crossings. -/
structure Edge where
  left : String
  stroke : Char
  crossing : String
  right : String

namespace Edge

/-- Above the headers. -/
def top : Edge := ⟨"┏", '━', "┳", "┓"⟩

/-- Between the headers and the rows. -/
def middle : Edge := ⟨"┡", '━', "╇", "┩"⟩

/-- Below the rows. -/
def bottom : Edge := ⟨"└", '─', "┴", "┘"⟩

/-- The line over columns of some widths. -/
def draw (r : Edge) (widths : List Nat) : String :=
  let strokes := widths.map fun w => String.ofList (List.replicate w r.stroke)
  r.left ++ r.crossing.intercalate strokes ++ r.right

end Edge

/-- The lines of a row, with bars between its cells. How a line of a cell is drawn depends on the
height of the row. -/
def drawRow (bar : String) (line : (height width : Nat) → Cell → (index : Nat) → String)
    (widths : List Nat) (cells : List Cell) : List String :=
  let cells := (widths.zip cells).map fun (w, c) => (w, c.within w)
  let height := (cells.map fun (_, c) => c.lines.length).foldl max 0
  (List.range (max height 1)).map fun i =>
    let parts := cells.map fun (w, c) => line height w c i
    bar ++ bar.intercalate parts ++ bar

-- ---------------------------------------------------------------------------
-- Columns
-- ---------------------------------------------------------------------------

/-- The number of columns: rows that are longer than the headers add some without a name. -/
def columnCount (t : Table) : Nat := (t.rows.map List.length).foldl max t.headers.length

/-- The cells of the headers. -/
def headerCells (t : Table) : List Cell :=
  (List.range t.columnCount).map fun i => Cell.ofText (t.headers.getD i "") none

/-- The cells of a row. -/
def bodyCells (t : Table) (row : List String) : List Cell :=
  (List.range t.columnCount).map fun i =>
    let text := row.getD i ""
    let judged := t.headers.idxOf? severityHeader = some i
    let emphasis := if judged then severityEmphasis? text else none
    Cell.ofText text emphasis

/-- The widths in which no cell of a column is broken. -/
def naturalWidths (t : Table) : List Nat :=
  let rows := t.headerCells :: t.rows.map t.bodyCells
  (List.range t.columnCount).map fun i =>
    (rows.map fun cells => ((cells[i]?).map Cell.width).getD 0).foldl max 0

/-- The bars of a table with some columns. -/
def bars (count : Nat) : Nat := count + 1

/-- The width of some columns together. -/
def total : List Nat → Nat
  | [] => 0
  | w :: ws => w + total ws

/-- The width of a table with its bars. -/
def span (widths : List Nat) : Nat := total widths + bars widths.length

/-- Takes what is too much from the widest columns, of which there are `count` from here on. Their
shares are as equal as whole numbers can be, and none is over a limit. -/
def trim (widest limit : Nat) : (excess count : Nat) → List Nat → List Nat
  | _, _, [] => []
  | excess, count, w :: ws =>
    if w = widest then
      let share := min limit (Binary64.roundHalfEven excess count)
      (w - share) :: trim widest limit (excess - share) (count - 1) ws
    else w :: trim widest limit excess count ws

/-- Columns that have room together: the widest ones are trimmed down to the next widest, and so on
with these. Every step trims a column, so there are at most as many steps as the columns are wide
together. -/
def narrow (room : Nat) : (steps : Nat) → List Nat → List Nat
  | 0, ws => ws
  | steps + 1, ws =>
    if total ws ≤ room then ws
    else
      let excess := total ws - room
      let widest := ws.foldl max 0
      let next := (ws.filter (· ≠ widest)).foldl max 0
      narrow room steps
        (trim widest (min excess (widest - next)) excess (ws.count widest) ws)

/-- The widths of the columns on a terminal. -/
def widths (columns : Nat) (t : Table) : List Nat :=
  let room := columns - bars t.columnCount
  let ws := t.naturalWidths.map (min room)
  narrow room (total ws) ws

-- ---------------------------------------------------------------------------
-- Tables
-- ---------------------------------------------------------------------------

/-- As many characters of a line as the terminal has columns. -/
def crop (columns : Nat) (line : String) : String := String.ofList (line.toList.take columns)

/-- A line of the headline, centred over a table; a blank that is left over goes to the right. -/
def titleLine (styling : Terminal.Styling) (columns width : Nat) (line : String) : String :=
  let text := String.ofList (line.toList.reverse.dropWhile Text.isBlank).reverse
  let spare := width - text.length
  Terminal.Emphasis.title.apply styling
    (crop columns (blanks (spare / 2) ++ text ++ blanks (spare - spare / 2)))

/-- The lines of the headline, if the table has one. -/
def titleLines (styling : Terminal.Styling) (columns width : Nat) (t : Table) : List String :=
  match t.title with
  | none => []
  | some "" => []
  | some title => (((Terminal.dropControls title).splitOn "\n").flatMap (Text.wrap width)).map
    (titleLine styling columns width)

/-- The lines of a table below its headline. -/
def frame (styling : Terminal.Styling) (widths : List Nat) (t : Table) : List String :=
  [Edge.top.draw widths] ++ drawRow "┃" (Cell.headerLine styling) widths t.headerCells ++
    [Edge.middle.draw widths] ++
    t.rows.flatMap (fun row =>
      drawRow "│" (fun _ => Cell.bodyLine styling) widths (t.bodyCells row)) ++
    [Edge.bottom.draw widths]

/-- The table in a box. One without columns is an empty line. -/
def boxed (styling : Terminal.Styling) (columns : Nat) (t : Table) : String :=
  if columns = 0 then ""
  else if t.columnCount = 0 then "\n"
  else
    let ws := t.widths columns
    -- a table for which there are too few columns is nothing but bars
    let lines := if columns < span ws then (t.frame styling ws).map (crop columns)
      else t.frame styling ws
    String.join ((t.titleLines styling columns (span ws) ++ lines).map (· ++ "\n"))

end ApiLint.Table
