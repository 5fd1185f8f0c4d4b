/-!
# Environment variables
-/

namespace ApiLint

/-- The environment variables of a run, each with its setting. A name occurs at most once as long as
`set` builds them. -/
structure Environment where
  settings : List (String × String)

namespace Environment

/-- No variable set. -/
def empty : Environment := ⟨[]⟩

/-- The value of a variable, if it is set. -/
def get? (e : Environment) (name : String) : Option String := e.settings.lookup name

/-- Whether a variable is set, to whatever value. -/
def has (e : Environment) (name : String) : Bool := (e.get? name).isSome

/-- The value of a variable that is set and not empty. -/
def nonempty? (e : Environment) (name : String) : Option String :=
  (e.get? name).filter (· ≠ "")

/-- The settings without one. -/
def unset (e : Environment) (name : String) : Environment :=
  ⟨e.settings.filter fun v => v.1 ≠ name⟩

/-- The settings with one set to a value. -/
def set (e : Environment) (name value : String) : Environment :=
  ⟨(name, value) :: (e.unset name).settings⟩

end Environment

end ApiLint
