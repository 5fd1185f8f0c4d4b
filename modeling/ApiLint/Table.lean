import ApiLint.Json.Writer

/-!
# Tables

A table of texts, with its two forms for other programs: `Table.plain` is one line a row with tabs
between the cells, `Table.toJson` one object a row. The form for people is `Table.boxed`.
-/

namespace ApiLint

/-- A table: a headline, the names of the columns, and rows that may be shorter or longer. -/
structure Table where
  title : Option String
  headers : List String
  rows : List (List String)

namespace Table

/-- One row with tabs between its cells, and a line break. -/
def plainLine (cells : List String) : String := "\t".intercalate cells ++ "\n"

/-- The headers and all rows, one line each. -/
def plain (t : Table) : String := String.join ((t.headers :: t.rows).map plainLine)

/-- Adds a member to an object; a name that is there already keeps its place. -/
def member (members : List (String × Json.Tree)) (name : String) (value : Json.Tree) :
    List (String × Json.Tree) :=
  match members with
  | [] => [(name, value)]
  | (n, v) :: rest => if n = name then (n, value) :: rest else (n, v) :: member rest name value

/-- The object of a row: its cells by the headers above them, as far as there are both. -/
def rowObject (headers row : List String) : Json.Tree :=
  .obj ((headers.zip row).foldl (fun ms (name, cell) => member ms name (.str cell)) [])

/-- The rows as objects. -/
def toJson (t : Table) : Json.Tree := .arr (t.rows.map (rowObject t.headers))

end Table

end ApiLint
