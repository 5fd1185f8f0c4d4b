import ApiLint.Environment
import ApiLint.Numeric.Decimal
import ApiLint.Text.Digit
import ApiLint.Text.Lowercase
import ApiLint.Text.Wrapped

/-!
# Terminals

How a text is emphasised on a terminal, how many columns it gets, and what becomes of characters
that would move the cursor.
-/

namespace ApiLint.Terminal

/-- How far a terminal can emphasise text. -/
inductive Styling
  /-- Not at all. -/
  | off
  /-- By weight and slant. -/
  | monochrome
  /-- By colours, too. -/
  | colour
deriving DecidableEq

/-- An emphasis: what it adds to a text with colours, and what without them. -/
structure Emphasis where
  colour : String
  monochrome : String

namespace Emphasis

/-- A text with an emphasis. Nothing is written around an empty text. -/
def apply (e : Emphasis) (styling : Styling) (text : String) : String :=
  let code := match styling with
    | .off => ""
    | .monochrome => e.monochrome
    | .colour => e.colour
  if code = "" ∨ text = "" then text else "\x1b[" ++ code ++ "m" ++ text ++ "\x1b[0m"

/-- The headline of a table. -/
def title : Emphasis := ⟨"3", "3"⟩

/-- The names of columns. -/
def header : Emphasis := ⟨"1;36", "1"⟩

/-- Errors. -/
def error : Emphasis := ⟨"1;31", "1"⟩

/-- Warnings. -/
def warning : Emphasis := ⟨"33", ""⟩

/-- What is switched off. -/
def off : Emphasis := ⟨"2", "2"⟩

end Emphasis

/-- Whether a character would ring the bell or move the cursor other than to a new line or a tab
stop. -/
def isControl (c : Char) : Bool := [0x7, 0x8, 0xb, 0xc, 0xd].contains c.toNat

/-- A text without such characters. -/
def dropControls (text : String) : String :=
  String.ofList (text.toList.filter fun c => !isControl c)

/-- The distance between tab stops. -/
def tabWidth : Nat := 8

/-- Characters with blanks up to the next stop in place of each tab. -/
def expandTabs : (column : Nat) → List Char → List Char
  | _, [] => []
  | column, c :: cs =>
    if c = '\t' then
      let gap := tabWidth - column % tabWidth
      List.replicate gap ' ' ++ expandTabs (column + gap) cs
    else if c = '\n' then c :: expandTabs 0 cs
    else c :: expandTabs (column + 1) cs

/-- Whether colours are unwanted. -/
def refusesColour (e : Environment) : Bool := e.has "NO_COLOR" || e.get? "TERM" == some "dumb"

/-- Whether the terminal cannot emphasise at all. -/
def isDumb (e : Environment) : Bool :=
  ["dumb", "unknown"].contains (Text.lower ((e.get? "TERM").getD ""))

/-- A number that the environment sets, in digits of any script. -/
def number? (e : Environment) (name : String) : Option Nat := do
  let digits ← (← e.nonempty? name).toList.mapM Text.asciiDigit?
  return Decimal.value digits

/-- The number of columns where nothing else is known. -/
def defaultColumns : Nat := 80

/-- The number of columns. The environment goes before what the terminal says of itself. A dumb
terminal has the usual number, unless the environment sets its number of lines as well. -/
def columns (e : Environment) (dumb : Bool) (terminal : Option Nat) : Nat :=
  match number? e "COLUMNS", number? e "LINES" with
  | some n, some _ => n
  | own, _ =>
    if dumb then defaultColumns
    else own.getD ((terminal.filter (· ≠ 0)).getD defaultColumns)

/-- A text of lines as a terminal shows it: tabs are filled up with blanks, and long lines go on in
the next one. -/
def layOut (columns : Nat) (text : String) : String :=
  let lines := (String.ofList (expandTabs 0 (dropControls text).toList)).splitOn "\n"
  "\n".intercalate (lines.flatMap (Text.wrap columns))

end ApiLint.Terminal
