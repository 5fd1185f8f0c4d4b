import ApiLint.FileTree.Replacement
import ApiLint.Proofs.Digits
import ApiLint.Proofs.FileTrees
import Mathlib.Data.List.Nodup
import Mathlib.Data.List.Perm.Subperm

/-!
# What replacing a file does

Replacing a file is all or nothing. The file that the content is written to first has a name that
is free, so it takes nothing's place, and it is gone afterwards whatever happens. What remains of an
attempt that fails is the directories that were created for it.

* `FileTree.freshName_free` — the name of the new file is free;
* `FileTree.setback?` — the error of the first step that fails;
* `FileTree.setback?_eq_none` — none fails exactly if the attempt is `FileTree.Unhindered`;
* `FileTree.replaceFile_of_setback`, `FileTree.replaceFile_of_no_setback` — what the tree holds
  after an attempt that fails and after one that succeeds.
-/

namespace ApiLint.FileTree

-- ---------------------------------------------------------------------------
-- The name of the new file
-- ---------------------------------------------------------------------------

theorem temporaryName_injective (target : String) :
    Function.Injective (temporaryName target) := by
  intro m n h
  have hText := congrArg String.toList h
  simp only [temporaryName, String.toList_append, List.append_cancel_right_eq,
    List.append_cancel_left_eq] at hText
  exact Decimal.ofNat_injective (String.toList_injective hText)

/-- Such a name is longer than that of the target. -/
theorem temporaryName_ne (target : String) (n : Nat) : temporaryName target n ≠ target := by
  intro h
  have hLength := congrArg String.length h
  simp only [temporaryName, String.length_append] at hLength
  have hDot : (".":String).length = 1 := rfl
  omega

theorem mem_places_of_at? {t : FileTree} {place : List String} (hPlace : place ≠ [])
    (h : t.at? place ≠ none) : place ∈ t.entries.map Prod.fst := by
  rw [at?_of_ne_nil hPlace, ne_eq, List.lookup_eq_none_iff] at h
  push Not at h
  obtain ⟨e, he, hSame⟩ := h
  simp only [bne_iff_ne, ne_eq, not_not] at hSame
  exact List.mem_map.mpr ⟨e, he, hSame.symm⟩

/-- Among one name more than there are places in the tree, one is free. -/
theorem exists_free (t : FileTree) (directory : List String) (target : String) :
    ∃ n ∈ List.range (t.entries.length + 1),
      t.at? (directory ++ [temporaryName target n]) = none := by
  by_contra hNone
  push Not at hNone
  let place (n : Nat) := directory ++ [temporaryName target n]
  have hInjective : Function.Injective place := by
    intro m n h
    exact temporaryName_injective target (List.singleton_injective (List.append_cancel_left h))
  have hNodup : ((List.range (t.entries.length + 1)).map place).Nodup :=
    List.Nodup.map hInjective List.nodup_range
  have hPlaces : (List.range (t.entries.length + 1)).map place ⊆ t.entries.map Prod.fst := by
    intro p hp
    obtain ⟨n, hn, rfl⟩ := List.mem_map.mp hp
    exact mem_places_of_at? (by simp [place]) (hNone n hn)
  have hLength := (hNodup.subperm hPlaces).length_le
  simp only [List.length_map, List.length_range] at hLength
  omega

/-- The new file takes nothing's place. -/
theorem freshName_free (t : FileTree) (directory : List String) (target : String) :
    t.at? (directory ++ [t.freshName directory target]) = none := by
  let free (n : Nat) := (t.at? (directory ++ [temporaryName target n])).isNone
  show t.at? (directory ++ [temporaryName target
    (((List.range (t.entries.length + 1)).find? free).getD 0)]) = none
  cases hFound : (List.range (t.entries.length + 1)).find? free with
  | some n =>
    have hFree : free n = true := List.find?_some hFound
    exact Option.isNone_iff_eq_none.mp hFree
  | none =>
    obtain ⟨n, hn, hFree⟩ := exists_free t directory target
    exact absurd (Option.isNone_iff_eq_none.mpr hFree) (List.find?_eq_none.mp hFound n hn)

theorem freshName_ne (t : FileTree) (directory : List String) (target : String) :
    t.freshName directory target ≠ target := temporaryName_ne target _

-- ---------------------------------------------------------------------------
-- The new file and the target
-- ---------------------------------------------------------------------------

variable {t : FileTree} {source target : List String} {content : List UInt8}

/-- A file at a place that was empty leaves no trace when it is removed. -/
theorem at?_erase_put (hSource : t.at? source = none) (entry : FileEntry) (place : List String) :
    ((t.put source entry).erase source).at? place = t.at? place := by
  have hRoot := ne_nil_of_at?_eq_none hSource
  rw [at?_erase hRoot, at?_put hRoot]
  split
  · next hPlace => rw [hPlace, hSource]
  · rfl

/-- Moving a new file onto a place fails if that is a directory. -/
theorem move_onto_directory (hSource : t.at? source = none)
    (hTarget : t.at? target = some .directory) :
    (t.put source (.file content)).move source target = .error .isDirectory := by
  have hRoot := ne_nil_of_at?_eq_none hSource
  have hDiffer : target ≠ source := by
    rintro rfl
    rw [hTarget] at hSource
    cases hSource
  rw [move, at?_put hRoot, at?_put hRoot, if_pos rfl, if_neg hDiffer, hTarget]

/-- Otherwise the file is then there, and the place that it was moved from is empty again. -/
theorem move_onto_other (hSource : t.at? source = none) (hTarget : t.at? target ≠ some .directory)
    (hDiffer : target ≠ source) :
    ∃ moved, (t.put source (.file content)).move source target = .ok moved ∧
      ∀ place, moved.at? place = if place = target then some (.file content) else t.at? place := by
  have hRoot := ne_nil_of_at?_eq_none hSource
  have hRoot' : target ≠ [] := by
    rintro rfl
    exact hTarget rfl
  refine ⟨((t.put source (.file content)).put target (.file content)).erase source, ?_, ?_⟩
  · rw [move, at?_put hRoot, at?_put hRoot, if_pos rfl, if_neg hDiffer]
    cases hEntry : t.at? target with
    | none => rfl
    | some entry =>
      cases entry with
      | file _ => rfl
      | directory => exact absurd hEntry hTarget
  · intro place
    rw [at?_erase hRoot, at?_put hRoot', at?_put hRoot]
    by_cases hPlace : place = source
    · rw [if_pos hPlace, hPlace, if_neg (Ne.symm hDiffer), hSource]
    · rw [if_neg hPlace, if_neg hPlace]

-- ---------------------------------------------------------------------------
-- Attempts
-- ---------------------------------------------------------------------------

/-- Why nothing can be moved onto a name in a directory. -/
def refusal? (t : FileTree) (directory : List String) (name : String) : Option FileError :=
  if name = "" ∨ name = FilePath.up then some .busy
  else if t.at? (directory ++ [name]) = some .directory then some .isDirectory
  else none

/-- The error of the first step that fails when a file in a directory is replaced, if one does. -/
def setbackIn? (obstacle : WriteStep → Option FileError) (t : FileTree) (directory : List String)
    (name : String) : Option FileError :=
  (obstacle .create).or ((((obstacle .write).or (obstacle .sync)).or (obstacle .replace)).or
    (t.refusal? directory name))

/-- The error of the first step that fails when a file is replaced, if one does. The directories
above it come first. -/
def setback? (obstacle : WriteStep → Option FileError) (t : FileTree) (here : List String)
    (p : FilePath) : Option FileError :=
  match t.establish here p.parent with
  | (_, .error e) => some e
  | (grown, .ok directory) => setbackIn? obstacle grown directory p.name

variable {obstacle : WriteStep → Option FileError} {directory : List String} {name : String}

theorem replaceIn_of_setback {e : FileError} (h : setbackIn? obstacle t directory name = some e) :
    ∃ t', replaceIn obstacle t directory name content = (t', .error e) ∧
      ∀ place, t'.at? place = t.at? place := by
  have hFree := freshName_free t directory name
  have hTrace := at?_erase_put hFree (.file content)
  rcases Option.or_eq_some_iff.mp h with hCreate | ⟨hCreate, h⟩
  · rw [replaceIn, hCreate]
    exact ⟨t, rfl, fun _ => rfl⟩
  -- from here on the new file is there and has to be removed
  rcases Option.or_eq_some_iff.mp h with hSteps | ⟨hSteps, hRefusal⟩
  · rw [replaceIn, hCreate, hSteps]
    exact ⟨_, rfl, hTrace⟩
  · rw [replaceIn, hCreate, hSteps]
    dsimp only
    rw [refusal?] at hRefusal
    split at hRefusal
    · next hName =>
      cases hRefusal
      rw [if_pos hName]
      exact ⟨_, rfl, hTrace⟩
    · next hName =>
      split at hRefusal
      · next hDirectory =>
        cases hRefusal
        rw [if_neg hName, move_onto_directory hFree hDirectory]
        exact ⟨_, rfl, hTrace⟩
      · cases hRefusal

/-- No step fails exactly if none fails by itself and the name is one of a file, or of nothing. -/
theorem setbackIn?_eq_none :
    setbackIn? obstacle t directory name = none ↔
      (∀ step, obstacle step = none) ∧ (name ≠ "" ∧ name ≠ FilePath.up) ∧
        t.at? (directory ++ [name]) ≠ some .directory := by
  have hSteps : (∀ step, obstacle step = none) ↔ obstacle .create = none ∧
      ((obstacle .write = none ∧ obstacle .sync = none) ∧ obstacle .replace = none) := by
    constructor
    · exact fun h => ⟨h _, ⟨h _, h _⟩, h _⟩
    · rintro ⟨hCreate, ⟨hWrite, hSync⟩, hReplace⟩ step
      cases step with
      | create => exact hCreate
      | write => exact hWrite
      | sync => exact hSync
      | replace => exact hReplace
  have hRefusal : t.refusal? directory name = none ↔
      (name ≠ "" ∧ name ≠ FilePath.up) ∧ t.at? (directory ++ [name]) ≠ some .directory := by
    rw [refusal?, ← not_or]
    split
    · next hName => simp [hName]
    · next hName => simp [hName]
  simp only [setbackIn?, Option.or_eq_none_iff, hSteps, hRefusal, and_assoc]

theorem replaceIn_of_no_setback (h : setbackIn? obstacle t directory name = none) :
    ∃ t', replaceIn obstacle t directory name content = (t', .ok ()) ∧
      ∀ place, t'.at? place =
        if place = directory ++ [name] then some (.file content) else t.at? place := by
  obtain ⟨hSteps, hName, hDirectory⟩ := setbackIn?_eq_none.mp h
  have hDiffer : directory ++ [name] ≠ directory ++ [t.freshName directory name] := by
    intro hSame
    exact freshName_ne t directory name
      (List.singleton_injective (List.append_cancel_left hSame)).symm
  obtain ⟨moved, hMove, hMoved⟩ :=
    move_onto_other (freshName_free t directory name) hDirectory hDiffer
  refine ⟨moved, ?_, hMoved⟩
  simp only [replaceIn, hSteps, Option.or_none, if_neg (not_or.mpr hName), hMove]

variable {here : List String} {p : FilePath}

/-- What the new file is moved onto. -/
theorem target_eq_lexical (hName : p.name ≠ "" ∧ p.name ≠ FilePath.up)
    (h : (t.establish here p.parent).2 = .ok directory) :
    directory ++ [p.name] = p.lexical here := by
  rw [FilePath.lexical_eq_step hName.1, FilePath.step, if_neg hName.2, (establish_directories h).1]

/-- **An attempt that fails changes nothing** but the directories above the file. -/
theorem replaceFile_of_setback {e : FileError} (h : setback? obstacle t here p = some e) :
    ∃ t', replaceFile obstacle t here p content = (t', .error e) ∧
      ∀ place, t'.at? place = (t.establish here p.parent).1.at? place := by
  rw [setback?] at h
  rw [replaceFile]
  cases hMade : t.establish here p.parent with
  | mk grown made =>
    rw [hMade] at h
    cases made with
    | error e' =>
      cases h
      exact ⟨grown, rfl, fun _ => rfl⟩
    | ok directory => exact replaceIn_of_setback h

/-- Whether nothing stands in the way of replacing a file: there is no file where a directory above
it has to be, no step fails by itself, and the path has the name of a place that is no directory and
does not become one on the way. -/
structure Unhindered (obstacle : WriteStep → Option FileError) (t : FileTree) (here : List String)
    (p : FilePath) : Prop where
  way : ∀ passed ∈ FilePath.reached (p.origin here) p.parent.parts,
    ∀ bytes, t.at? passed ≠ some (.file bytes)
  steps : ∀ step, obstacle step = none
  name : p.name ≠ "" ∧ p.name ≠ FilePath.up
  target : t.at? (p.lexical here) ≠ some .directory ∧
    p.lexical here ∉ FilePath.reached (p.origin here) p.parent.parts

/-- No step fails exactly if nothing stands in the way. -/
theorem setback?_eq_none : setback? obstacle t here p = none ↔ Unhindered obstacle t here p := by
  have hUnhindered : Unhindered obstacle t here p ↔
      (∃ directory, (t.establish here p.parent).2 = .ok directory) ∧
        (∀ step, obstacle step = none) ∧ (p.name ≠ "" ∧ p.name ≠ FilePath.up) ∧
          (t.establish here p.parent).1.at? (p.lexical here) ≠ some .directory := by
    constructor
    · rintro ⟨hWay, hSteps, hName, hTarget⟩
      have hMade : ∃ directory, (t.establish here p.parent).2 = .ok directory :=
        establish_ok_iff.mpr hWay
      exact ⟨hMade, hSteps, hName, (establish_directory_iff hMade _).not.mpr (not_or.mpr hTarget)⟩
    · rintro ⟨hMade, hSteps, hName, hTarget⟩
      exact ⟨establish_ok_iff.mp hMade, hSteps, hName,
        not_or.mp ((establish_directory_iff hMade _).not.mp hTarget)⟩
  rw [hUnhindered, setback?]
  cases hMade : t.establish here p.parent with
  | mk grown made =>
    cases made with
    | error e => simp
    | ok directory =>
      have hExists : ∃ d, (Except.ok directory : Except FileError (List String)) = .ok d :=
        ⟨directory, rfl⟩
      dsimp only
      rw [setbackIn?_eq_none, and_iff_right hExists]
      refine and_congr_right fun _ => and_congr_right fun hName => ?_
      rw [target_eq_lexical hName (congrArg Prod.snd hMade)]

/-- **An attempt that succeeds changes the target** and nothing else but the directories above. -/
theorem replaceFile_of_no_setback (h : setback? obstacle t here p = none) :
    ∃ t', replaceFile obstacle t here p content = (t', .ok ()) ∧
      ∀ place, t'.at? place = if place = p.lexical here then some (.file content)
        else (t.establish here p.parent).1.at? place := by
  have hName := (setback?_eq_none.mp h).name
  rw [setback?] at h
  rw [replaceFile]
  cases hMade : t.establish here p.parent with
  | mk grown made =>
    rw [hMade] at h
    cases made with
    | error e' => cases h
    | ok directory =>
      rw [← target_eq_lexical hName (congrArg Prod.snd hMade)]
      exact replaceIn_of_no_setback h

end ApiLint.FileTree
