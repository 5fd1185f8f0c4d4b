import ApiLint.Proofs.JsonReading
import ApiLint.Proofs.Searches
import ApiLint.Proofs.Utf8

/-!
# What loading a configuration can come to

Whatever is wrong with a configuration file is reported as a problem with it, with three exceptions:
a path of which the system does not say where it leads, bytes that are no text, and an integer of
more digits than are converted break off the loading unreported.

* `Config.completes_message_of_object` — a refusal of what a file may hold can be put into words;
* `ConfigFile.parse_reported_iff` — what may come of a text;
* `ConfigFile.load_reported` — what may come of a file;
* `ConfigFile.load_unreported` — a file whose loading breaks off.
-/

namespace ApiLint

open Outcome

-- ---------------------------------------------------------------------------
-- Refusals in words
-- ---------------------------------------------------------------------------

theorem Rejection.completes_message {r : Rejection} :
    Completes r.message ↔ ∀ p ∈ r.problems, Completes p.lines := by
  rw [message, bind_pure_comp, completes_map, completes_mapM]

theorem Severities.completes_lines_problems {lead : String} {es : Entries} {p : ConfigProblem}
    (h : p ∈ problems lead es) : Completes p.lines := by
  obtain ⟨rule, -, hProblem⟩ := List.mem_filterMap.mp h
  split at hProblem
  · cases hProblem
  · cases hProblem
    exact completes_ok _

namespace Config

/-- Only the name of a section that is no text may be without words. -/
theorem completes_lines_problems {es : Entries} (hKeys : es.Texts) {p : ConfigProblem}
    (h : p ∈ problems es) : Completes p.lines := by
  rcases List.mem_append.mp h with h | h
  · split at h
    · cases h
    · exact Severities.completes_lines_problems h
    · rw [List.mem_singleton.mp h]
      exact completes_ok _
  · obtain ⟨e, he, hProblem⟩ := List.mem_filterMap.mp h
    obtain ⟨s, hs⟩ := hKeys e he
    rw [hs] at hProblem
    cases hProblem

/-- The refusal of a mapping with texts as keys can be put into words. -/
theorem completes_message_of_texts {es : Entries} (hKeys : es.Texts) {r : Rejection}
    (h : ofValue (.map es) = .error r) : Completes r.message := by
  rw [Rejection.completes_message]
  unfold ofValue at h
  dsimp only at h
  split at h
  · cases h
  · cases h
    exact fun p hp => completes_lines_problems hKeys hp

/-- So can the refusal of an object for a name that is no text. -/
theorem completes_message_of_object {names : List (List Text.CodePoint)} {es : Entries}
    (hKeys : es.Texts) {r : Rejection} (h : ofObject names es = .error r) :
    Completes r.message := by
  unfold ofObject at h
  split at h
  · exact completes_message_of_texts hKeys h
  · cases h
    rw [Rejection.completes_message, List.forall_mem_singleton]
    exact completes_ok _

end Config

-- ---------------------------------------------------------------------------
-- Texts
-- ---------------------------------------------------------------------------

/-- A world with some files at its root, the current directory, and nothing else. -/
def World.holding (files : List (String × List UInt8)) : World where
  files := ⟨files.map fun (name, content) => ([name], .file content)⟩
  directory := []
  environment := .empty
  platform := "Linux"
  input := []
  isTerminal := false
  network := fun _ => .failure ""
  obstacle := fun _ => none
  time := ""

namespace ConfigFile

/-- Whether loading came to a configuration or to a problem that is reported. -/
def Reported (loaded : Except Trouble Config) : Prop :=
  (∃ c, loaded = .ok c) ∨ ∃ p, loaded = .error (.config p)

theorem parse_outcome (path : FilePath) (text : String) :
    Reported (parse path text) ∨
      ∃ fault, Json.read text = .error (.conversion fault) ∧
        parse path text = .error (.fault fault) := by
  unfold parse
  split
  · exact .inl (.inr ⟨_, rfl⟩)
  · next fault h => exact .inr ⟨fault, Formats.readJson_eq_conversion.mp h, rfl⟩
  · next es h =>
    have hKeys := Json.texts_of_read (Formats.readJson_eq_ok.mp h)
    split
    · exact .inl (.inl ⟨_, rfl⟩)
    · next rejection hRejected =>
      obtain ⟨complaint, hComplaint⟩ := Config.completes_message_of_object hKeys hRejected
      rw [hComplaint]
      exact .inl (.inr ⟨_, rfl⟩)
  · exact .inl (.inr ⟨_, rfl⟩)

-- ---------------------------------------------------------------------------
-- Files
-- ---------------------------------------------------------------------------

/-- Whether bytes break off the loading unreported: they are those of no text, or their text is JSON
up to an integer of more digits than are converted. -/
def BreaksOff (bytes : List UInt8) : Prop :=
  (∀ chars, bytes ≠ Text.Utf8.encode chars) ∨
    ∃ chars digits, bytes = Text.Utf8.encode chars ∧ Fault.digitLimit < digits ∧
      Json.readChars (World.unifyBreaks chars) = .error (.conversion (.numeralTooLong digits))

/-- A text is what its own bytes are read as. -/
theorem breaksOff_encode {chars : List Char} :
    BreaksOff (Text.Utf8.encode chars) ↔
      ∃ digits, Fault.digitLimit < digits ∧
        Json.readChars (World.unifyBreaks chars) =
          .error (.conversion (.numeralTooLong digits)) := by
  constructor
  · rintro (hNone | ⟨chars', digits, hBytes, hLong, hFault⟩)
    · exact absurd rfl (hNone chars)
    · rw [Text.Utf8.encode_inj.mp hBytes]
      exact ⟨digits, hLong, hFault⟩
  · rintro ⟨digits, hLong, hFault⟩
    exact .inr ⟨chars, digits, rfl, hLong, hFault⟩

theorem load_of_refused {w : World} {path : FilePath} {t : Trouble}
    (h : w.isFile path = .error t) : load w path = .error t := by
  rw [load, h]
  rfl

theorem load_of_no_file {w : World} {path : FilePath} (h : w.isFile path = .ok false) :
    load w path = .error (.config (.notFound path)) := by
  rw [load, h]
  rfl

theorem load_of_unreadable {w : World} {path : FilePath} {reason : String}
    (hFile : w.isFile path = .ok true) (h : w.content path = .error reason) :
    load w path = .error (.config (.invalid path reason)) := by
  rw [load, hFile, World.readText, h]
  rfl

theorem load_of_undecodable {w : World} {path : FilePath} {bytes : List UInt8}
    {b : Text.Utf8.BadBytes} (hFile : w.isFile path = .ok true) (h : w.content path = .ok bytes)
    (hBytes : Text.Utf8.decode bytes = .error b) : load w path = .error (.undecodable b) := by
  have hText : w.readText path = .error (.undecodable b) := by
    simp only [World.readText, World.textOf, h, hBytes]
  rw [load, hFile, hText]
  rfl

theorem load_of_text {w : World} {path : FilePath} {chars : List Char}
    (hFile : w.isFile path = .ok true) (h : w.content path = .ok (Text.Utf8.encode chars)) :
    load w path = parse path (String.ofList (World.unifyBreaks chars)) := by
  have hText : w.readText path = .ok (String.ofList (World.unifyBreaks chars)) := by
    simp only [World.readText, World.textOf, h, Text.Utf8.decode_encode]
  rw [load, hFile, hText]
  rfl

theorem not_reported {t : Trouble} (h : t.failure? = none) : ¬ Reported (.error t) := by
  rintro (⟨c, hLoaded⟩ | ⟨p, hLoaded⟩)
  · cases hLoaded
  · cases hLoaded
    cases h

theorem parse_reported_iff {path : FilePath} {chars : List Char} :
    Reported (parse path (String.ofList chars)) ↔
      ∀ digits, Fault.digitLimit < digits →
        Json.readChars chars ≠ .error (.conversion (.numeralTooLong digits)) := by
  have hRead : Json.read (String.ofList chars) = Json.readChars chars := by
    rw [Json.read, String.toList_ofList]
  constructor
  · intro h digits _ hFault
    rw [← hRead, ← Formats.readJson_eq_conversion] at hFault
    rw [parse, hFault] at h
    exact not_reported rfl h
  · intro h
    rcases parse_outcome path (String.ofList chars) with hReported | ⟨fault, hFault, -⟩
    · exact hReported
    · rw [hRead] at hFault
      obtain ⟨ds, -, -, hLong, rfl⟩ := Json.spoiled_of_readChars hFault
      exact absurd hFault (h ds.length hLong)

/-- Bytes that are there to be read are loaded to a configuration or a reported problem, unless they
break off the loading. -/
theorem load_reported_of_content {w : World} {path : FilePath} {bytes : List UInt8}
    (hFile : w.isFile path = .ok true) (h : w.content path = .ok bytes) :
    Reported (load w path) ↔ ¬ BreaksOff bytes := by
  cases hBytes : Text.Utf8.decode bytes with
  | error b =>
    have hBreaks : BreaksOff bytes := by
      left
      rintro chars rfl
      rw [Text.Utf8.decode_encode] at hBytes
      cases hBytes
    rw [load_of_undecodable hFile h hBytes]
    exact iff_of_false (not_reported rfl) (not_not_intro hBreaks)
  | ok chars =>
    obtain rfl := Text.Utf8.decode_eq_ok_iff.mp hBytes
    rw [load_of_text hFile h, parse_reported_iff, breaksOff_encode]
    simp only [not_exists, not_and, ne_eq]

-- ---------------------------------------------------------------------------
-- Runs of digits
-- ---------------------------------------------------------------------------

section Digits

variable {ds : List Char}

/-- A run of digits does not begin with a line feed. -/
theorem eq_nil_of_prefix_break {rest : List Char} (hDigits : ∀ c ∈ ds, Decimal.isDigit c = true)
    (h : ds <+: '\n' :: rest) : ds = [] := by
  rcases List.prefix_cons_iff.mp h with rfl | ⟨t, rfl, -⟩
  · rfl
  · exact absurd (hDigits '\n' List.mem_cons_self) (by decide)

theorem prefix_of_unifyBreaks {s : List Char} (hDigits : ∀ c ∈ ds, Decimal.isDigit c = true)
    (h : ds <+: World.unifyBreaks s) : ds <+: s := by
  fun_induction World.unifyBreaks s generalizing ds with
  | case1 => exact h
  | case2 rest =>
    rw [eq_nil_of_prefix_break hDigits h]
    exact List.nil_prefix
  | case3 rest =>
    rw [eq_nil_of_prefix_break hDigits h]
    exact List.nil_prefix
  | case4 c rest _ _ ih =>
    rcases List.prefix_cons_iff.mp h with rfl | ⟨t, rfl, ht⟩
    · exact List.nil_prefix
    · obtain ⟨-, hRest⟩ := List.forall_mem_cons.mp hDigits
      exact List.prefix_cons_inj c |>.mpr (ih hRest ht)

/-- Line breaks are no digits, so unifying them makes no new runs of digits. -/
theorem part_of_unifyBreaks {s : List Char} (hDigits : ∀ c ∈ ds, Decimal.isDigit c = true)
    (h : ds <:+: World.unifyBreaks s) : ds <:+: s := by
  fun_induction World.unifyBreaks s with
  | case1 => exact h
  | case2 rest ih =>
    rcases List.infix_cons_iff.mp h with h | h
    · rw [eq_nil_of_prefix_break hDigits h]
      exact List.nil_infix
    · exact ((ih h).trans (List.suffix_cons _ rest).isInfix).trans (List.suffix_cons _ _).isInfix
  | case3 rest _ ih =>
    rcases List.infix_cons_iff.mp h with h | h
    · rw [eq_nil_of_prefix_break hDigits h]
      exact List.nil_infix
    · exact (ih h).trans (List.suffix_cons _ rest).isInfix
  | case4 c rest hFirst hSecond ih =>
    rcases List.infix_cons_iff.mp h with h | h
    · rcases List.prefix_cons_iff.mp h with rfl | ⟨t, rfl, ht⟩
      · exact List.nil_infix
      · obtain ⟨-, hRest⟩ := List.forall_mem_cons.mp hDigits
        exact (List.prefix_cons_inj c |>.mpr (prefix_of_unifyBreaks hRest ht)).isInfix
    · exact (ih h).trans (List.suffix_cons _ rest).isInfix

/-- A text breaks off the loading only at a run of too many digits in it. -/
theorem spoiled_of_breaksOff {chars : List Char} (h : BreaksOff (Text.Utf8.encode chars)) :
    ∃ fault, Json.SpoiledBy chars fault := by
  obtain ⟨digits, -, hFault⟩ := breaksOff_encode.mp h
  obtain ⟨ds, hDs, hDigits, hRest⟩ := Json.spoiled_of_readChars hFault
  exact ⟨_, ds, part_of_unifyBreaks hDigits hDs, hDigits, hRest⟩

end Digits

-- ---------------------------------------------------------------------------
-- Whatever a file holds
-- ---------------------------------------------------------------------------

/-- **Loading a file comes to a configuration or to a reported problem**, in every world and at
every path, unless the system does not say whether the file is there, or it is there, can be read
and holds bytes that break off the loading. Bytes of a text do so only by a run of too many
digits. -/
theorem load_reported (w : World) (path : FilePath) :
    (Reported (load w path) ↔ w.lookupRefusal path = none ∧
      ¬ ∃ bytes, w.isFile path = .ok true ∧ w.content path = .ok bytes ∧ BreaksOff bytes) ∧
    ∀ chars, BreaksOff (Text.Utf8.encode chars) → ∃ fault, Json.SpoiledBy chars fault := by
  refine ⟨?_, fun chars => spoiled_of_breaksOff⟩
  rcases World.isFile_cases w path with hFile | hFile | ⟨reason, hRefusal, hFile⟩
  · have hAnswered := (World.isFile_eq_ok.mp hFile).1
    cases hContent : w.content path with
    | error reason =>
      rw [load_of_unreadable hFile hContent]
      refine iff_of_true (.inr ⟨_, rfl⟩) ⟨hAnswered, ?_⟩
      rintro ⟨bytes, -, h, -⟩
      cases h
    | ok bytes =>
      rw [load_reported_of_content hFile hContent, and_iff_right hAnswered]
      apply not_congr
      constructor
      · intro h
        exact ⟨bytes, hFile, rfl, h⟩
      · rintro ⟨bytes', -, hBytes, h⟩
        cases hBytes
        exact h
  · rw [load_of_no_file hFile]
    refine iff_of_true (.inr ⟨_, rfl⟩) ⟨(World.isFile_eq_ok.mp hFile).1, ?_⟩
    rintro ⟨bytes, h, -⟩
    rw [hFile] at h
    cases h
  · rw [load_of_refused hFile, hRefusal]
    refine iff_of_false (not_reported rfl) ?_
    rintro ⟨h, -⟩
    cases h

/-- A byte that starts no character is no problem with the file but an error of its own. -/
theorem load_unreported :
    ∃ (w : World) (path : FilePath), w.content path = .ok [0xff] ∧ ¬ Reported (load w path) := by
  let path : FilePath := ⟨.relative, ["h.json"]⟩
  have hFile : (World.holding [("h.json", [0xff])]).isFile path = .ok true :=
    World.isFile_eq_ok.mpr ⟨rfl, by decide⟩
  have hContent : (World.holding [("h.json", [0xff])]).content path = .ok [0xff] := by rfl
  have hBytes : Text.Utf8.decode [0xff] = .error ⟨0xff, 0, 1, .start⟩ := by rfl
  refine ⟨World.holding [("h.json", [0xff])], path, hContent, ?_⟩
  rw [load_of_undecodable hFile hContent hBytes]
  exact not_reported rfl

end ConfigFile

end ApiLint
