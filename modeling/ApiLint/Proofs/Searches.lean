import ApiLint.Config.Discovery
import ApiLint.Proofs.Outcome

/-!
# Looking for files

The system says whether a path leads to a file, or refuses to. A search asks for one path after the
other; it ends at the first one that leads to a file, and it breaks off where it gets no answer.

* `World.isFile_eq_ok`, `World.isFile_eq_error` — what a look-up says;
* `Discovery.firstFile?_cases` — how a search ends, by the paths that it asks for.
-/

namespace ApiLint

open Outcome

namespace World

variable {w : World} {path : FilePath}

theorem answer_eq_ok {b b' : Bool} :
    w.answer path b = .ok b' ↔ w.lookupRefusal path = none ∧ b = b' := by
  unfold answer
  cases w.lookupRefusal path with
  | none => simp
  | some reason => simp

theorem answer_eq_error {b : Bool} {t : Trouble} :
    w.answer path b = .error t ↔
      ∃ reason, w.lookupRefusal path = some reason ∧ t = .lookup reason := by
  unfold answer
  cases w.lookupRefusal path with
  | none => simp
  | some reason => simp [eq_comm]

theorem isFile_eq_ok {b : Bool} :
    w.isFile path = .ok b ↔
      w.lookupRefusal path = none ∧ w.files.isFile w.directory path = b :=
  answer_eq_ok

theorem isFile_eq_error {t : Trouble} :
    w.isFile path = .error t ↔ ∃ reason, w.lookupRefusal path = some reason ∧ t = .lookup reason :=
  answer_eq_error

/-- A look-up says that there is a file, that there is none, or nothing. -/
theorem isFile_cases (w : World) (path : FilePath) :
    w.isFile path = .ok true ∨ w.isFile path = .ok false ∨
      ∃ reason, w.lookupRefusal path = some reason ∧ w.isFile path = .error (.lookup reason) := by
  cases h : w.isFile path with
  | ok b =>
    cases b with
    | true => exact .inl rfl
    | false => exact .inr (.inl rfl)
  | error t =>
    obtain ⟨reason, hRefusal, rfl⟩ := isFile_eq_error.mp h
    exact .inr (.inr ⟨reason, hRefusal, rfl⟩)

end World

namespace Discovery

variable {w : World} {p : FilePath} {ps : List FilePath}

theorem firstFile?_of_file (h : w.isFile p = .ok true) : firstFile? w (p :: ps) = .ok (some p) := by
  rw [firstFile?, h]
  rfl

theorem firstFile?_of_no_file (h : w.isFile p = .ok false) :
    firstFile? w (p :: ps) = firstFile? w ps := by
  rw [firstFile?, h]
  rfl

theorem firstFile?_of_error {t : Trouble} (h : w.isFile p = .error t) :
    firstFile? w (p :: ps) = .error t := by
  rw [firstFile?, h]
  rfl

/-- **How a search ends.** No path leads to a file, or after some that do not there is one that does
or one for which there is no answer. -/
theorem firstFile?_cases (w : World) (ps : List FilePath) :
    (firstFile? w ps = .ok none ∧ ∀ p ∈ ps, w.isFile p = .ok false) ∨
      ∃ before p after, ps = before ++ p :: after ∧ (∀ q ∈ before, w.isFile q = .ok false) ∧
        ((firstFile? w ps = .ok (some p) ∧ w.isFile p = .ok true) ∨
          ∃ t, firstFile? w ps = .error t ∧ w.isFile p = .error t) := by
  induction ps with
  | nil => exact .inl ⟨rfl, fun _ h => absurd h List.not_mem_nil⟩
  | cons p ps ih =>
    cases hFile : w.isFile p with
    | error t =>
      exact .inr ⟨[], p, ps, rfl, by simp, .inr ⟨t, firstFile?_of_error hFile, hFile⟩⟩
    | ok b =>
      cases b with
      | true => exact .inr ⟨[], p, ps, rfl, by simp, .inl ⟨firstFile?_of_file hFile, hFile⟩⟩
      | false =>
        -- the search goes on behind this path
        rw [firstFile?_of_no_file hFile]
        rcases ih with ⟨hResult, hNone⟩ | ⟨before, q, after, rfl, hBefore, hEnd⟩
        · exact .inl ⟨hResult, List.forall_mem_cons.mpr ⟨hFile, hNone⟩⟩
        · exact .inr ⟨p :: before, q, after, rfl, List.forall_mem_cons.mpr ⟨hFile, hBefore⟩, hEnd⟩

end Discovery

end ApiLint
