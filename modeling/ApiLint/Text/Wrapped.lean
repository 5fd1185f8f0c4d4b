import ApiLint.Text.Blank

/-!
# Wrapped lines

A line that is too long for the columns it gets goes on in the next one. It is broken between words
where it can be, and within a word that is longer than a whole line. Every character is one column
wide.

* `Text.words` — the parts between which a line may be broken;
* `Text.fill` — words line by line;
* `Text.wrap` — the lines of a line.
-/

namespace ApiLint.Text

/-- The words of a line, each with the blanks after it and the first one with those before it. A
line of blanks is one word. -/
def words (line : List Char) : List (List Char) :=
  let indent := line.takeWhile isBlank
  match (line.dropWhile isBlank).splitBy fun c d => !isBlank c || isBlank d with
  | [] => [indent]
  | first :: rest => (indent ++ first) :: rest

/-- The columns that a word needs: the blanks after it may be cut off. -/
def wordWidth (word : List Char) : Nat := (word.reverse.dropWhile isBlank).length

/-- Characters in pieces of a width, after the beginning of the first one. The last one may be
shorter. -/
def chunks (columns : Nat) : (piece : List Char) → List Char → List (List Char)
  | piece, [] => [piece]
  | piece, c :: cs =>
    if piece.length < columns then chunks columns (piece ++ [c]) cs
    else piece :: chunks columns [c] cs

/-- Lines filled with words, after the beginning of the first line. A word that does not fit begins
a new line, and one that fits no line is broken. -/
def fill (columns : Nat) : (line : List Char) → List (List Char) → List (List Char)
  | line, [] => [line]
  | line, word :: rest =>
    if line.length + wordWidth word ≤ columns then fill columns (line ++ word) rest
    else
      let closed := if line = [] then [] else [line]
      let parts := if columns < wordWidth word then chunks columns [] word else [word]
      closed ++ parts.dropLast ++ fill columns (parts.getLast?.getD []) rest

/-- The lines of a line. Only blanks are ever cut off. -/
def wrap (columns : Nat) (line : String) : List String :=
  (fill columns [] (words line.toList)).map fun cs => String.ofList (cs.take columns)

end ApiLint.Text
