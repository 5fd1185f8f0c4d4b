import ApiLint.FileTree

/-!
# Laws of file trees

What a place holds after a change, what the creation of directories changes, and where a path leads
once they are there.

* `FileTree.at?_put`, `FileTree.at?_erase` — a change is one of one place;
* `FileTree.Grown` — a tree has grown by nothing but directories, at places that held nothing;
* `FileTree.establish_grown` — that is what creating directories does, even if it fails in the end;
* `FileTree.establish_ok_iff` — it fails exactly if there is a file on the way;
* `FileTree.establish_directories` — if it does not, every place on the way is a directory;
* `FileTree.walk_concat` — then the way can be followed.
-/

namespace ApiLint

-- ---------------------------------------------------------------------------
-- Paths
-- ---------------------------------------------------------------------------

namespace FilePath

/-- The places that parts lead to from a directory, from the first step on. -/
def reached (here parts : List String) : List (List String) := (passage here parts).tail

theorem reached_cons (here : List String) (part : String) (rest : List String) :
    reached here (part :: rest) = step here part :: reached (step here part) rest := by
  cases rest with
  | nil => rfl
  | cons next rest => rfl

/-- A path with a name leads through its parent. -/
theorem parts_eq_concat {p : FilePath} (h : p.name ≠ "") :
    p.parts = p.parent.parts ++ [p.name] := by
  have hParts : p.parts ≠ [] := by
    intro hNil
    rw [name, hNil] at h
    exact h rfl
  have hName : p.name = p.parts.getLast hParts := by
    rw [name, List.getLast?_eq_some_getLast hParts, Option.getD_some]
  rw [hName]
  exact (List.dropLast_concat_getLast hParts).symm

theorem lexical_eq_step {p : FilePath} (h : p.name ≠ "") (here : List String) :
    p.lexical here = step (p.parent.lexical here) p.name := by
  rw [lexical, parts_eq_concat h, List.foldl_append]
  rfl

end FilePath

namespace FileTree

variable {t t' t'' : FileTree} {place : List String}

-- ---------------------------------------------------------------------------
-- Single places
-- ---------------------------------------------------------------------------

/-- The root cannot be empty. -/
theorem ne_nil_of_at?_eq_none (h : t.at? place = none) : place ≠ [] := by
  rintro rfl
  cases h

theorem at?_of_ne_nil (h : place ≠ []) (t : FileTree) : t.at? place = t.entries.lookup place := by
  rw [at?, if_neg (by simpa using h)]

theorem lookup_cons (place other : List String) (entry : FileEntry)
    (entries : List (List String × FileEntry)) :
    ((place, entry) :: entries).lookup other =
      if other = place then some entry else entries.lookup other := by
  rw [List.lookup_cons]
  by_cases h : other = place
  · rw [if_pos h, h, beq_self_eq_true]
  · rw [if_neg h, beq_false_of_ne h]

theorem lookup_filter_ne (entries : List (List String × FileEntry)) (place other : List String) :
    (entries.filter fun e => e.1 ≠ place).lookup other =
      if other = place then none else entries.lookup other := by
  induction entries with
  | nil => simp
  | cons e entries ih =>
    obtain ⟨here, entry⟩ := e
    by_cases hHere : here = place
    · rw [List.filter_cons_of_neg (by simpa using hHere), ih, lookup_cons, hHere]
      split
      · rfl
      · rfl
    · rw [List.filter_cons_of_pos (by simpa using hHere), lookup_cons, lookup_cons, ih]
      by_cases hOther : other = place
      · rw [if_pos hOther, if_pos hOther, if_neg (hOther ▸ Ne.symm hHere)]
      · rw [if_neg hOther, if_neg hOther]

/-- Emptying a place changes no other one. -/
theorem at?_erase (h : place ≠ []) (t : FileTree) (other : List String) :
    (t.erase place).at? other = if other = place then none else t.at? other := by
  by_cases hRoot : other = []
  · subst hRoot
    rw [if_neg (Ne.symm h)]
    rfl
  · rw [at?_of_ne_nil hRoot, at?_of_ne_nil hRoot, erase, lookup_filter_ne]

/-- Putting something at a place changes no other one. -/
theorem at?_put (h : place ≠ []) (t : FileTree) (entry : FileEntry) (other : List String) :
    (t.put place entry).at? other = if other = place then some entry else t.at? other := by
  by_cases hRoot : other = []
  · subst hRoot
    rw [if_neg (Ne.symm h)]
    rfl
  · rw [at?_of_ne_nil hRoot, at?_of_ne_nil hRoot, put, lookup_cons, erase, lookup_filter_ne]
    split
    · rfl
    · rfl

-- ---------------------------------------------------------------------------
-- Growth
-- ---------------------------------------------------------------------------

/-- Whether a place holds what it held in an earlier tree, or is one of these places, held nothing
and is a directory now. -/
def GrownAt (places : List (List String)) (t t' : FileTree) (place : List String) : Prop :=
  t'.at? place = t.at? place ∨
    place ∈ places ∧ t.at? place = none ∧ t'.at? place = some .directory

/-- Whether a tree differs from an earlier one by nothing but directories, at some of these places
and where there was nothing. -/
def Grown (places : List (List String)) (t t' : FileTree) : Prop :=
  ∀ place, GrownAt places t t' place

variable {places places' : List (List String)}

theorem Grown.refl (places : List (List String)) (t : FileTree) : Grown places t t :=
  fun _ => .inl rfl

theorem Grown.mono (h : Grown places t t') (hPlaces : places ⊆ places') : Grown places' t t' := by
  intro place
  rcases h place with hSame | ⟨hMem, hNew⟩
  · exact .inl hSame
  · exact .inr ⟨hPlaces hMem, hNew⟩

theorem Grown.trans (h : Grown places t t') (h' : Grown places t' t'') : Grown places t t'' := by
  intro place
  rcases h' place with hSame' | ⟨hMem', hNone', hNew'⟩
  · rcases h place with hSame | ⟨hMem, hNone, hNew⟩
    · exact .inl (hSame'.trans hSame)
    · exact .inr ⟨hMem, hNone, hSame'.trans hNew⟩
  · rcases h place with hSame | ⟨-, -, hNew⟩
    · exact .inr ⟨hMem', hSame.symm.trans hNone', hNew'⟩
    · rw [hNew] at hNone'
      cases hNone'

/-- What was there is still there. -/
theorem GrownAt.kept (h : GrownAt places t t' place) {entry : FileEntry}
    (hEntry : t.at? place = some entry) : t'.at? place = some entry := by
  rcases h with hSame | ⟨-, hNone, -⟩
  · exact hSame.trans hEntry
  · rw [hEntry] at hNone
    cases hNone

theorem grown_put (h : t.at? place = none) : Grown [place] t (t.put place .directory) := by
  intro other
  rw [GrownAt, at?_put (ne_nil_of_at?_eq_none h)]
  by_cases hOther : other = place
  · rw [if_pos hOther, hOther]
    exact .inr ⟨List.mem_singleton_self place, h, rfl⟩
  · exact .inl (if_neg hOther)

-- ---------------------------------------------------------------------------
-- Creating directories
-- ---------------------------------------------------------------------------

/-- Creating directories changes nothing but empty places on the way, even if it fails. -/
theorem makeFrom_grown (t : FileTree) (made : Bool) (here parts : List String) :
    Grown (FilePath.reached here parts) t (t.makeFrom made here parts).1 := by
  induction parts generalizing t made here with
  | nil => exact .refl _ t
  | cons part rest ih =>
    rw [FilePath.reached_cons, makeFrom]
    have hRest := List.subset_cons_self (FilePath.step here part)
      (FilePath.reached (FilePath.step here part) rest)
    split
    · exact (ih t made _).mono hRest
    · exact .refl _ t
    · next hNone =>
      have hNext : [FilePath.step here part] ⊆
          FilePath.step here part :: FilePath.reached (FilePath.step here part) rest :=
        List.cons_subset_cons _ (List.nil_subset _)
      exact ((grown_put hNone).mono hNext).trans ((ih _ true _).mono hRest)

/-- If it does not fail, it ends where the parts lead, and every place on the way is a directory. -/
theorem makeFrom_directories {made : Bool} {here parts : List String}
    (h : (t.makeFrom made here parts).2 = .ok place) :
    place = parts.foldl FilePath.step here ∧
      ∀ passed ∈ FilePath.reached here parts,
        (t.makeFrom made here parts).1.at? passed = some .directory := by
  induction parts generalizing t made here with
  | nil =>
    cases h
    exact ⟨rfl, fun _ hPassed => absurd hPassed List.not_mem_nil⟩
  | cons part rest ih =>
    -- what is reached by the first step is a directory from then on
    have hStep : ∀ (t : FileTree) (made : Bool),
        t.at? (FilePath.step here part) = some .directory →
        (t.makeFrom made (FilePath.step here part) rest).2 = .ok place →
        place = rest.foldl FilePath.step (FilePath.step here part) ∧
          ∀ passed ∈ FilePath.step here part :: FilePath.reached (FilePath.step here part) rest,
            (t.makeFrom made (FilePath.step here part) rest).1.at? passed = some .directory := by
      intro t made hNext h
      obtain ⟨hPlace, hReached⟩ := ih h
      exact ⟨hPlace, List.forall_mem_cons.mpr
        ⟨(makeFrom_grown t made _ rest _).kept hNext, hReached⟩⟩
    rw [FilePath.reached_cons]
    rw [makeFrom] at h ⊢
    split at h
    · next hNext => exact hStep t made hNext h
    · cases h
    · next hNone =>
      apply hStep _ true ?_ h
      rw [at?_put (ne_nil_of_at?_eq_none hNone), if_pos rfl]

/-- Nothing but a file on the way makes it fail. -/
theorem makeFrom_ok_iff {made : Bool} {here parts : List String} :
    (∃ place, (t.makeFrom made here parts).2 = .ok place) ↔
      ∀ passed ∈ FilePath.reached here parts, ∀ bytes, t.at? passed ≠ some (.file bytes) := by
  induction parts generalizing t made here with
  | nil => exact ⟨fun _ _ hPassed => absurd hPassed List.not_mem_nil, fun _ => ⟨here, rfl⟩⟩
  | cons part rest ih =>
    rw [FilePath.reached_cons, List.forall_mem_cons, makeFrom]
    split
    · next hNext => simp [ih, hNext]
    · next bytes hNext => simp [hNext]
    · next hNone =>
      -- the directory that is created is no file, and neither is the empty place before
      have hSame : ∀ (passed : List String) (bytes : List UInt8),
          (t.put (FilePath.step here part) .directory).at? passed = some (.file bytes) ↔
            t.at? passed = some (.file bytes) := by
        intro passed bytes
        rw [at?_put (ne_nil_of_at?_eq_none hNone)]
        split
        · next hPassed => simp [hPassed, hNone]
        · exact Iff.rfl
      simp only [ih, ne_eq, hSame, hNone, reduceCtorEq, not_false_eq_true, implies_true, true_and]

theorem establish_grown (t : FileTree) (here : List String) (p : FilePath) :
    Grown (FilePath.reached (p.origin here) p.parts) t (t.establish here p).1 :=
  makeFrom_grown t false (p.origin here) p.parts

theorem establish_directories {here : List String} {p : FilePath}
    (h : (t.establish here p).2 = .ok place) :
    place = p.lexical here ∧ ∀ passed ∈ FilePath.reached (p.origin here) p.parts,
      (t.establish here p).1.at? passed = some .directory :=
  makeFrom_directories h

theorem establish_ok_iff {here : List String} {p : FilePath} :
    (∃ place, (t.establish here p).2 = .ok place) ↔
      ∀ passed ∈ FilePath.reached (p.origin here) p.parts,
        ∀ bytes, t.at? passed ≠ some (.file bytes) :=
  makeFrom_ok_iff

/-- Afterwards a place is a directory if it was one before or lies on the way. -/
theorem establish_directory_iff {here : List String} {p : FilePath}
    (h : ∃ place, (t.establish here p).2 = .ok place) (place : List String) :
    (t.establish here p).1.at? place = some .directory ↔
      t.at? place = some .directory ∨ place ∈ FilePath.reached (p.origin here) p.parts := by
  obtain ⟨_, h⟩ := h
  constructor
  · intro hDirectory
    rcases establish_grown t here p place with hSame | ⟨hReached, -⟩
    · exact .inl (hSame.symm.trans hDirectory)
    · exact .inr hReached
  · rintro (hDirectory | hReached)
    · exact (establish_grown t here p place).kept hDirectory
    · exact (establish_directories h).2 place hReached

-- ---------------------------------------------------------------------------
-- Following a path
-- ---------------------------------------------------------------------------

/-- A way through directories can be followed to whatever stands at its end. -/
theorem walk_concat {here parts : List String} {part : String}
    (hHere : t.at? here = some .directory)
    (hReached : ∀ passed ∈ FilePath.reached here parts, t.at? passed = some .directory)
    (hLast : (t.at? (FilePath.step (parts.foldl FilePath.step here) part)).isSome = true) :
    t.walk here (parts ++ [part]) = .ok (FilePath.step (parts.foldl FilePath.step here) part) := by
  induction parts generalizing here with
  | nil =>
    rw [List.nil_append, walk, hHere]
    exact if_pos hLast
  | cons next rest ih =>
    rw [FilePath.reached_cons] at hReached
    obtain ⟨hNext, hRest⟩ := List.forall_mem_cons.mp hReached
    rw [List.cons_append, walk, hHere]
    simp only [hNext, Option.isSome_some, if_true]
    exact ih hNext hRest hLast

end FileTree

end ApiLint
