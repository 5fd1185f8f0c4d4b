import ApiLint.Log
import ApiLint.Trouble

/-!
# Steps that keep a log

The result of a step together with the events it recorded, which stay when the step breaks off.
-/

namespace ApiLint

/-- The outcome of a step, and what it recorded. -/
structure Logged (α : Type) where
  log : List LogEvent
  result : Except Trouble α

namespace Logged

/-- An outcome without a record. -/
def ofExcept {α : Type} (result : Except Trouble α) : Logged α := ⟨[], result⟩

/-- One event. -/
def record (event : LogEvent) : Logged Unit := ⟨[event], .ok ()⟩

/-- One step after another; the second one only if the first one succeeds. -/
def andThen {α β : Type} (a : Logged α) (next : α → Logged β) : Logged β :=
  match a.result with
  | .error t => ⟨a.log, .error t⟩
  | .ok x => ⟨a.log ++ (next x).log, (next x).result⟩

instance : Monad Logged where
  pure x := ⟨[], .ok x⟩
  bind := andThen

end Logged

end ApiLint
