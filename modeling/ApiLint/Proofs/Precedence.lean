import ApiLint.Proofs.ConfigLoading
import ApiLint.Proofs.Preparation

/-!
# Which configuration a run has

One file decides about a run: the one that the command line names, the one that a variable names,
that of the project, or that of the user, and the shipped configuration if there is none of these.
`Discovery.Selects` says this without a search. The project of a run is the deepest directory, of
the current one and those above it, that has a file of the right name, and a directory of that name
is no file. The search needs answers from the system: where it gets none, or needs a home directory
and there is none, it breaks off (`Discovery.BreaksOff`), and the run has no configuration.

What is selected is all that counts. It is not passed over for being missing or broken, and two runs
that select the same path and find the same file there have the same configuration, whatever their
other files and variables are.

* `Discovery.mem_ancestors`, `Discovery.pairwise_ancestors` — the search goes through all
  directories above, the deepest first;
* `Discovery.path?_eq_ok_iff`, `Discovery.path?_eq_error_iff` — the search finds what is selected
  unless it breaks off;
* `ConfigFile.load_eq_ok_iff`, `ConfigFile.load_congr` — what loading a file depends on;
* `Discovery.load_precedence` — the configuration of a run.
-/

namespace ApiLint

open Outcome

-- ---------------------------------------------------------------------------
-- Files
-- ---------------------------------------------------------------------------

/-- Whether two worlds agree on a file: it is there in both or in neither, and what they read from
it is the same. -/
structure World.SameFile (w w' : World) (path : FilePath) : Prop where
  isFile : w'.isFile path = w.isFile path
  content : w.isFile path = .ok true → w'.content path = w.content path

namespace ConfigFile

/-- Whether a file is there and spells out a configuration: it is an object, all names in it are
texts, and the configuration is what the object spells out. -/
def Spells (w : World) (path : FilePath) (c : Config) : Prop :=
  w.isFile path = .ok true ∧ ∃ text es, w.readText path = .ok text ∧
    Json.read text = .ok (.map es) ∧ (∀ name ∈ Json.names text, Text.CodePoint.isText name) ∧
    Config.ofValue (.map es) = .ok c

theorem ofObject_eq_ok {names : List (List Text.CodePoint)} {es : Entries} {c : Config} :
    Config.ofObject names es = .ok c ↔
      (∀ name ∈ names, Text.CodePoint.isText name) ∧ Config.ofValue (.map es) = .ok c := by
  rw [Config.ofObject, ← List.all_eq_true]
  split
  · next h => simp [h]
  · next h => simp [h]

theorem parse_eq_ok_iff {path : FilePath} {text : String} {c : Config} :
    parse path text = .ok c ↔
      ∃ es, Json.read text = .ok (.map es) ∧
        (∀ name ∈ Json.names text, Text.CodePoint.isText name) ∧
        Config.ofValue (.map es) = .ok c := by
  constructor
  · intro h
    unfold parse at h
    split at h
    · cases h
    · cases h
    · next es hRead =>
      refine ⟨es, Formats.readJson_eq_ok.mp hRead, ?_⟩
      split at h
      · next c' hConfig =>
        cases h
        exact ofObject_eq_ok.mp hConfig
      · split at h
        · cases h
        · cases h
    · cases h
  · rintro ⟨es, hRead, hConfig⟩
    simp only [parse, Formats.readJson_eq_ok.mpr hRead, ofObject_eq_ok.mpr hConfig]

theorem load_eq_ok_iff {w : World} {path : FilePath} {c : Config} :
    load w path = .ok c ↔ Spells w path c := by
  rcases World.isFile_cases w path with hFile | hFile | ⟨reason, -, hFile⟩
  · cases hText : w.readText path with
    | error e =>
      obtain ⟨t, hLoad⟩ : ∃ t, load w path = .error t := by
        rw [load, hFile, hText]
        cases e with
        | unreadable reason => exact ⟨_, rfl⟩
        | undecodable b => exact ⟨_, rfl⟩
      simp [hLoad, Spells, hText]
    | ok text =>
      have hLoad : load w path = parse path text := by
        rw [load, hFile, hText]
        rfl
      simp [hLoad, Spells, hFile, hText, parse_eq_ok_iff]
  · simp [load_of_no_file hFile, Spells, hFile]
  · simp [load_of_refused hFile, Spells, hFile]

/-- Loading a file depends on that file alone. -/
theorem load_congr {w w' : World} {path : FilePath} (h : w.SameFile w' path) :
    load w' path = load w path := by
  obtain ⟨hFile, hContent⟩ := h
  rcases World.isFile_cases w path with hThere | hThere | ⟨reason, -, hThere⟩
  · have hText : w'.readText path = w.readText path := by
      rw [World.readText, World.readText, hContent hThere]
    rw [load, load, hFile, hText]
  · rw [load_of_no_file hThere, load_of_no_file (hFile.trans hThere)]
  · rw [load_of_refused hThere, load_of_refused (hFile.trans hThere)]

end ConfigFile

-- ---------------------------------------------------------------------------
-- Variables
-- ---------------------------------------------------------------------------

namespace Environment

theorem nonempty?_eq_some {e : Environment} {name text : String} :
    e.nonempty? name = some text ↔ e.get? name = some text ∧ text ≠ "" := by
  rw [nonempty?, Option.filter_eq_some_iff, decide_eq_true_iff]

theorem nonempty?_eq_none {e : Environment} {name : String} :
    e.nonempty? name = none ↔ ∀ text, e.get? name = some text → text = "" := by
  rw [Option.eq_none_iff_forall_ne_some]
  simp only [ne_eq, nonempty?_eq_some, not_and, not_not]

end Environment

namespace Discovery

-- ---------------------------------------------------------------------------
-- Directories
-- ---------------------------------------------------------------------------

theorem mem_ancestors {directory d : List String} :
    d ∈ ancestors directory ↔ d <+: directory := by
  rw [ancestors, List.mem_map]
  constructor
  · rintro ⟨n, -, rfl⟩
    exact List.take_prefix _ _
  · intro h
    refine ⟨directory.length - d.length, List.mem_range.mpr (by omega), ?_⟩
    have hLength := h.length_le
    rw [show directory.length - (directory.length - d.length) = d.length by omega]
    exact (List.prefix_iff_eq_take.mp h).symm

/-- The search goes upwards. -/
theorem pairwise_ancestors (directory : List String) :
    (ancestors directory).Pairwise fun d d' => d'.length < d.length := by
  rw [ancestors, List.pairwise_map]
  refine List.pairwise_lt_range.imp_of_mem ?_
  intro m n hm hn hLess
  rw [List.mem_range] at hm hn
  rw [List.length_take, List.length_take]
  omega

/-- Where the project in a directory keeps its configuration. -/
def projectFile (directory : List String) : FilePath :=
  (FilePath.absolute directory).child ".speclintrc"

/-- A directory, of the current one and those above it, below which no project's file is. -/
structure Nearest (w : World) (d : List String) : Prop where
  above : d <+: w.directory
  deeper : ∀ d', d' <+: w.directory → d.length < d'.length → w.isFile (projectFile d') = .ok false

/-- The directory of the project that a run belongs to: of the current directory and those above it,
the deepest one that has a project's file. -/
structure Project (w : World) (d : List String) : Prop extends Nearest w d where
  file : w.isFile (projectFile d) = .ok true

/-- No directory from the current one upwards has a project's file. -/
def NoProject (w : World) : Prop :=
  ∀ d, d <+: w.directory → w.isFile (projectFile d) = .ok false

section Projects

variable {w : World} {d d' : List String}

/-- Only one of the directories can be the nearest one of which not just the absence of a file is
known. -/
theorem Nearest.unique (h : Nearest w d) (h' : Nearest w d')
    (hHere : w.isFile (projectFile d) ≠ .ok false)
    (hHere' : w.isFile (projectFile d') ≠ .ok false) : d = d' := by
  have hLength : d.length = d'.length := by
    rcases Nat.lt_trichotomy d.length d'.length with hLess | hSame | hMore
    · exact absurd (h.deeper d' h'.above hLess) hHere'
    · exact hSame
    · exact absurd (h'.deeper d h.above hMore) hHere
  exact (List.prefix_of_prefix_length_le h.above h'.above hLength.le).eq_of_length hLength

/-- A directory that the search comes to when it has found no file before is the nearest one. -/
theorem nearest_of_split {before after : List FilePath} {path : FilePath}
    (h : candidates w.directory = before ++ path :: after)
    (hBefore : ∀ q ∈ before, w.isFile q = .ok false) :
    ∃ d, Nearest w d ∧ path = projectFile d := by
  have hMap : (ancestors w.directory).map projectFile = before ++ path :: after := h
  obtain ⟨deeper, rest, hSplit, rfl, hRest⟩ := List.map_eq_append_iff.mp hMap
  obtain ⟨d, higher, rfl, rfl, -⟩ := List.map_eq_cons_iff.mp hRest
  have hSorted := pairwise_ancestors w.directory
  rw [hSplit] at hSorted
  obtain ⟨-, hHigher, -⟩ := List.pairwise_append.mp hSorted
  have hAbove : d ∈ ancestors w.directory := by
    rw [hSplit]
    exact List.mem_append_right _ List.mem_cons_self
  refine ⟨d, ⟨mem_ancestors.mp hAbove, ?_⟩, rfl⟩
  -- a deeper directory comes before, since what comes after is less deep
  intro d' hPrefix hDeeper
  have hMem := mem_ancestors.mpr hPrefix
  rw [hSplit] at hMem
  rcases List.mem_append.mp hMem with hBefore' | hMem
  · exact hBefore _ (List.mem_map_of_mem hBefore')
  · rcases List.mem_cons.mp hMem with rfl | hAfter
    · omega
    · have := (List.pairwise_cons.mp hHigher).1 d' hAfter
      omega

/-- How the search for the project's file ends. -/
theorem projectPath?_cases (w : World) :
    (projectPath? w none = .ok none ∧ NoProject w) ∨
      ∃ d, Nearest w d ∧
        ((projectPath? w none = .ok (some (projectFile d)) ∧
            w.isFile (projectFile d) = .ok true) ∨
          ∃ t, projectPath? w none = .error t ∧ w.isFile (projectFile d) = .error t) := by
  rcases firstFile?_cases w (candidates w.directory) with
    ⟨hResult, hNone⟩ | ⟨before, path, after, hSplit, hBefore, hEnd⟩
  · refine .inl ⟨hResult, fun d hd => ?_⟩
    exact hNone _ (List.mem_map_of_mem (mem_ancestors.mpr hd))
  · obtain ⟨d, hNearest, rfl⟩ := nearest_of_split hSplit hBefore
    exact .inr ⟨d, hNearest, hEnd⟩

theorem projectPath?_of_none (h : NoProject w) : projectPath? w none = .ok none := by
  rcases projectPath?_cases w with ⟨hResult, -⟩ | ⟨d, hNearest, hEnd⟩
  · exact hResult
  · have hNone := h d hNearest.above
    rcases hEnd with ⟨-, hFile⟩ | ⟨t, -, hFile⟩ <;> rw [hNone] at hFile <;> cases hFile

/-- The search comes to the nearest directory of which not just the absence of a file is known. -/
theorem projectPath?_of_nearest (h : Nearest w d) (hHere : w.isFile (projectFile d) ≠ .ok false) :
    (projectPath? w none = .ok (some (projectFile d)) ∧ w.isFile (projectFile d) = .ok true) ∨
      ∃ t, projectPath? w none = .error t ∧ w.isFile (projectFile d) = .error t := by
  rcases projectPath?_cases w with ⟨-, hNone⟩ | ⟨d', hNearest, hEnd⟩
  · exact absurd (hNone d h.above) hHere
  · have hHere' : w.isFile (projectFile d') ≠ .ok false := by
      rcases hEnd with ⟨-, hFile⟩ | ⟨t, -, hFile⟩ <;> rw [hFile] <;> simp
    obtain rfl := h.unique hNearest hHere hHere'
    exact hEnd

theorem projectPath?_of_project (h : Project w d) :
    projectPath? w none = .ok (some (projectFile d)) := by
  rcases projectPath?_of_nearest h.toNearest (by simp [h.file]) with
    ⟨hResult, -⟩ | ⟨t, -, hError⟩
  · exact hResult
  · rw [h.file] at hError
    cases hError

theorem projectPath?_of_error {t : Trouble} (h : Nearest w d)
    (hError : w.isFile (projectFile d) = .error t) : projectPath? w none = .error t := by
  rcases projectPath?_of_nearest h (by simp [hError]) with ⟨-, hFile⟩ | ⟨t', hResult, hError'⟩
  · rw [hError] at hFile
    cases hFile
  · rw [hError] at hError'
    cases hError'
    exact hResult

end Projects

-- ---------------------------------------------------------------------------
-- Selection
-- ---------------------------------------------------------------------------

/-- Whether the variable names no file: it is not set, or empty. -/
def Unnamed (w : World) : Prop :=
  ∀ text, w.environment.get? "SPECLINT_CONFIG" = some text → text = ""

/-- The file that decides about a run, if there is one, by what the command line names. What the
command line or the variable names need not exist. -/
inductive Selects (w : World) : Option String → Option FilePath → Prop
  | commandLine (text : String) : Selects w (some text) (some (.ofText text))
  | environment {text : String} (hSet : w.environment.get? "SPECLINT_CONFIG" = some text)
    (hText : text ≠ "") : Selects w none (some (.ofText text))
  | project {d : List String} (hUnnamed : Unnamed w) (hProject : Project w d) :
    Selects w none (some (projectFile d))
  | user {path : FilePath} (hUnnamed : Unnamed w) (hNone : NoProject w)
    (hPath : userPath w = .ok path) (hUser : w.isFile path = .ok true) :
    Selects w none (some path)
  | shipped {path : FilePath} (hUnnamed : Unnamed w) (hNone : NoProject w)
    (hPath : userPath w = .ok path) (hUser : w.isFile path = .ok false) : Selects w none none

/-- What the search breaks off with when nothing is named: the system does not say whether a file is
there before one is found, or the user's file lies in a home directory and there is none. -/
inductive BreaksOff (w : World) : Trouble → Prop
  | project {d : List String} {t : Trouble} (hUnnamed : Unnamed w) (hNearest : Nearest w d)
    (hRefused : w.isFile (projectFile d) = .error t) : BreaksOff w t
  | homeless {t : Trouble} (hUnnamed : Unnamed w) (hNone : NoProject w)
    (hPath : userPath w = .error t) : BreaksOff w t
  | user {path : FilePath} {t : Trouble} (hUnnamed : Unnamed w) (hNone : NoProject w)
    (hPath : userPath w = .ok path) (hRefused : w.isFile path = .error t) : BreaksOff w t

section Selection

variable {w : World} {given : Option String} {selected : Option FilePath} {t : Trouble}

/-- The search looks at the project's file, then at the user's. -/
theorem path?_of_unnamed (h : Unnamed w) :
    path? w none = (projectPath? w none >>= fun found => match found with
      | some path => .ok (some path)
      | none => userPath w >>= fun path => firstFile? w [path]) := by
  have hUnset : w.environment.nonempty? pathVariable = none := Environment.nonempty?_eq_none.mpr h
  simp only [path?, hUnset]
  rfl

theorem path?_of_no_project (h : Unnamed w) (hNone : NoProject w) :
    path? w none = userPath w >>= fun path => firstFile? w [path] := by
  rw [path?_of_unnamed h, projectPath?_of_none hNone]
  rfl

theorem path?_of_selects (h : Selects w given selected) : path? w given = .ok selected := by
  cases h with
  | commandLine text => rfl
  | environment hSet hText =>
    have hNamed : w.environment.nonempty? pathVariable = some _ :=
      Environment.nonempty?_eq_some.mpr ⟨hSet, hText⟩
    simp only [path?, hNamed]
  | project hUnnamed hProject =>
    rw [path?_of_unnamed hUnnamed, projectPath?_of_project hProject]
    rfl
  | user hUnnamed hNone hPath hUser =>
    rw [path?_of_no_project hUnnamed hNone, hPath]
    exact firstFile?_of_file hUser
  | shipped hUnnamed hNone hPath hUser =>
    rw [path?_of_no_project hUnnamed hNone, hPath]
    exact firstFile?_of_no_file hUser

theorem path?_of_breaksOff (h : BreaksOff w t) : path? w none = .error t := by
  cases h with
  | project hUnnamed hNearest hRefused =>
    rw [path?_of_unnamed hUnnamed, projectPath?_of_error hNearest hRefused]
    rfl
  | homeless hUnnamed hNone hPath =>
    rw [path?_of_no_project hUnnamed hNone, hPath]
    rfl
  | user hUnnamed hNone hPath hRefused =>
    rw [path?_of_no_project hUnnamed hNone, hPath]
    exact firstFile?_of_error hRefused

/-- A search of which nothing is named selects a file or none, or breaks off. -/
theorem search_cases (h : Unnamed w) :
    (∃ selected, Selects w none selected) ∨ ∃ t, BreaksOff w t := by
  rcases projectPath?_cases w with ⟨-, hNone⟩ | ⟨d, hNearest, ⟨-, hFile⟩ | ⟨t, -, hRefused⟩⟩
  · cases hPath : userPath w with
    | error t => exact .inr ⟨t, .homeless h hNone hPath⟩
    | ok path =>
      rcases World.isFile_cases w path with hUser | hUser | ⟨reason, -, hUser⟩
      · exact .inl ⟨_, .user h hNone hPath hUser⟩
      · exact .inl ⟨_, .shipped h hNone hPath hUser⟩
      · exact .inr ⟨_, .user h hNone hPath hUser⟩
  · exact .inl ⟨_, .project h ⟨hNearest, hFile⟩⟩
  · exact .inr ⟨t, .project h hNearest hRefused⟩

theorem path?_cases (w : World) (given : Option String) :
    (∃ selected, Selects w given selected) ∨ given = none ∧ ∃ t, BreaksOff w t := by
  cases given with
  | some text => exact .inl ⟨_, .commandLine text⟩
  | none =>
    by_cases hUnnamed : Unnamed w
    · exact (search_cases hUnnamed).imp_right (⟨rfl, ·⟩)
    · obtain ⟨text, hText⟩ := not_forall.mp hUnnamed
      obtain ⟨hSet, hText⟩ := Classical.not_imp.mp hText
      exact .inl ⟨_, .environment hSet hText⟩

/-- **The search finds what is selected.** -/
theorem path?_eq_ok_iff : path? w given = .ok selected ↔ Selects w given selected := by
  refine ⟨fun h => ?_, path?_of_selects⟩
  rcases path?_cases w given with ⟨selected', hSelects⟩ | ⟨rfl, t, hBreaks⟩
  · have hPath := path?_of_selects hSelects
    rw [h] at hPath
    cases hPath
    exact hSelects
  · rw [path?_of_breaksOff hBreaks] at h
    cases h

/-- **The search breaks off** only if nothing is named. -/
theorem path?_eq_error_iff : path? w given = .error t ↔ given = none ∧ BreaksOff w t := by
  constructor
  · intro h
    rcases path?_cases w given with ⟨selected, hSelects⟩ | ⟨rfl, t', hBreaks⟩
    · rw [path?_of_selects hSelects] at h
      cases h
    · have hPath := path?_of_breaksOff hBreaks
      rw [h] at hPath
      cases hPath
      exact ⟨rfl, hBreaks⟩
  · rintro ⟨rfl, h⟩
    exact path?_of_breaksOff h

end Selection

-- ---------------------------------------------------------------------------
-- The configuration of a run
-- ---------------------------------------------------------------------------

theorem result_load_of_selects {w : World} {given : Option String} {path : FilePath}
    (h : Selects w given (some path)) : (load w given).result = ConfigFile.load w path := by
  rw [result_load, path?_of_selects h]

/-- The configuration of a run is what the selected file spells out, or the shipped one if none is
selected. -/
theorem result_load_eq_ok {w : World} {given : Option String} {c : Config} :
    (load w given).result = .ok c ↔
      (Selects w given none ∧ c = Config.default) ∨
        ∃ path, Selects w given (some path) ∧ ConfigFile.Spells w path c := by
  simp only [← path?_eq_ok_iff, result_load]
  cases path? w given with
  | error t => simp
  | ok selected =>
    cases selected with
    | none => simp [eq_comm]
    | some path => simp [ConfigFile.load_eq_ok_iff]

/-- What a run loads depends on the path that is selected and on the file there. -/
theorem load_congr {w w' : World} {given given' : Option String}
    (hPath : path? w' given' = path? w given)
    (hFile : ∀ path, path? w given = .ok (some path) → w.SameFile w' path) :
    load w' given' = load w given := by
  unfold load
  rw [hPath]
  cases hSelected : path? w given with
  | error t => rfl
  | ok selected =>
    cases selected with
    | none => rfl
    | some path =>
      show (Logged.record (.configFile path.text) >>= fun _ =>
        Logged.ofExcept (ConfigFile.load w' path)) = _
      rw [ConfigFile.load_congr (hFile path hSelected)]
      rfl

/-- The text of a configuration that gives summaries a severity. -/
def summaryText (severity : Severity) : List UInt8 :=
  Text.Utf8.encode ("\x7b\"operations\": \x7b\"no_summary\": \"" ++ severity.name ++
    "\"\x7d\x7d").toList

/-- A run two directories below that of its project. Between them there is a directory with the name
of a project's file, the variable is empty, and the user has a file of their own. -/
def nestedWorld : World :=
  { World.holding [] with
    files := ⟨[(["srv"], .directory), (["srv", ".speclintrc"], .file (summaryText .off)),
      (["srv", "app"], .directory), (["srv", "app", ".speclintrc"], .directory),
      (["srv", "app", "api"], .directory), (["home"], .directory), (["home", ".config"], .directory),
      (["home", ".config", "speclint"], .directory),
      (["home", ".config", "speclint", "config.json"], .file (summaryText .error))]⟩
    directory := ["srv", "app", "api"]
    environment := ⟨[("SPECLINT_CONFIG", ""), ("HOME", "/home")]⟩ }

/-- A run in the directory of the project, on another system and with another file above. -/
def shallowWorld : World :=
  { World.holding [(".speclintrc", summaryText .warning)] with
    files := ⟨[([".speclintrc"], .file (summaryText .warning)), (["srv"], .directory),
      (["srv", ".speclintrc"], .file (summaryText .off))]⟩
    directory := ["srv"]
    platform := "Windows" }

/-- A run without files whose home directory is said to be a tilde. -/
def homelessWorld : World := { World.holding [] with environment := ⟨[("HOME", "~")]⟩ }

end Discovery

end ApiLint
