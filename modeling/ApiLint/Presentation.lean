import ApiLint.Table.Boxed

/-!
# Presentation

How a run presents itself: the format of its report, which it writes to standard output, and its
messages, which it writes to standard error.

* `Presentation.choose` fixes both once for a run;
* `Presentation.table` is the text of a table, `Presentation.message` that of a message; a message
  that is not wanted has none.
-/

namespace ApiLint

/-- The format of a report. -/
inductive ReportFormat
  | json
  | plain
  | rich
deriving DecidableEq

namespace ReportFormat

/-- All formats. -/
def all : List ReportFormat := [.json, .plain, .rich]

/-- The name of a format. -/
def name : ReportFormat → String
  | .json => "json"
  | .plain => "plain"
  | .rich => "rich"

/-- The format with a name. -/
def ofName? (name : String) : Option ReportFormat := all.find? fun f => f.name == name

end ReportFormat

/-- What a message is about. -/
inductive MessageKind
  | error
  | warning
  | success
  | suggestion
  | debug
deriving DecidableEq

namespace MessageKind

/-- How messages of a kind begin. -/
def lead : MessageKind → String
  | .error => "Error: "
  | .warning => "Warning: "
  | .success => ""
  | .suggestion => "→ "
  | .debug => "[debug] "

end MessageKind

/-- How a run presents itself. -/
structure Presentation where
  format : ReportFormat
  /-- Whether colours are allowed. -/
  colour : Bool
  /-- Whether the terminal cannot emphasise at all. -/
  dumb : Bool
  quiet : Bool
  verbose : Bool
  /-- The columns for a table. -/
  columns : Nat
  /-- The columns for a message. -/
  messageColumns : Nat

/-- What a run was asked for: a format, or none to let the terminal decide. -/
structure PresentationOptions where
  format : Option ReportFormat := none
  noColour : Bool := false
  quiet : Bool := false
  verbose : Bool := false

namespace Presentation

/-- The presentation of a run on a terminal with so many columns, if it knows them. Without a format
a report is boxed if it goes to a terminal with colours, and plain otherwise. Messages do not go to
a terminal, so for them none is dumb. -/
def choose (o : PresentationOptions) (isTerminal : Bool) (terminal : Option Nat) (e : Environment) :
    Presentation where
  format := o.format.getD
    (if isTerminal && !o.noColour && !Terminal.refusesColour e then .rich else .plain)
  colour := !o.noColour && !Terminal.refusesColour e
  dumb := Terminal.isDumb e
  quiet := o.quiet
  verbose := o.verbose
  columns := Terminal.columns e (Terminal.isDumb e) terminal
  messageColumns := Terminal.columns e false terminal

/-- How tables are emphasised. -/
def styling (p : Presentation) : Terminal.Styling :=
  if p.dumb then .off else if p.colour then .colour else .monochrome

/-- A table in the format of the report. -/
def table (p : Presentation) (t : Table) : String :=
  match p.format with
  | .json => t.toJson.render ++ "\n"
  | .plain => t.plain
  | .rich => t.boxed p.styling p.columns

/-- Whether messages of a kind are wanted. -/
def wants (p : Presentation) : MessageKind → Bool
  | .success | .suggestion => !p.quiet
  | .debug => p.verbose
  | _ => true

/-- The text of a message; where colours are allowed, it is laid out for a terminal. -/
def message (p : Presentation) (kind : MessageKind) (text : String) : String :=
  if !p.wants kind then ""
  else
    let line := kind.lead ++ text
    if !p.colour then line ++ "\n"
    else if p.messageColumns = 0 then ""
    else Terminal.layOut p.messageColumns line ++ "\n"

end Presentation

end ApiLint
