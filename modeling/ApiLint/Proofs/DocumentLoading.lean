import ApiLint.Proofs.JsonReading
import ApiLint.Proofs.Preparation
import ApiLint.Proofs.Utf8

/-!
# What loading a document can come to

A text is read as a document or refused, and a refusal ends the run with the status of an unusable
document. The exception is a conversion that fails inside a reader: it is neither, and escapes. So
do bytes at standard input that are no text, and a file of which the system does not say whether it
is there.

* `Document.parse_eq_fault` — what escapes is a conversion that fails in a reader that is asked;
* `Source.breaksOff_iff` — which sources have no text and no problem that is reported;
* `Document.parse_reported` — when a text is read or refused, and when a run whose document cannot
  be loaded ends as it should;
* `Document.read_unreported` — a text that is neither read nor refused.
-/

namespace ApiLint

open Outcome

namespace Document

variable {formats : Formats} {hint : FormatHint} {text : String} {fault : Fault}

/-- Whether a conversion fails in a reader that is asked for a text: that of JSON unless the hint is
YAML, and that of YAML if the hint is YAML or if there is none and the text is not JSON. -/
def ConversionFails (formats : Formats) (hint : FormatHint) (text : String) (fault : Fault) :
    Prop :=
  hint ≠ .yaml ∧ formats.json text = .error (.conversion fault) ∨
    (hint = .yaml ∨ hint = .none ∧ ∃ complaint, formats.json text = .error (.malformed complaint)) ∧
      formats.yaml text = .error (.conversion fault)

/-- A value is a mapping or refused. -/
theorem requireMapping_ne_fault {v : Value} : requireMapping v ≠ .error (.fault fault) := by
  intro h
  unfold requireMapping at h
  split at h
  · cases h
  · cases h
  · cases h

theorem parseYaml_eq_fault {json : Option String} :
    parseYaml formats json text = .error (.fault fault) ↔
      formats.yaml text = .error (.conversion fault) := by
  unfold parseYaml
  split
  · next v h =>
    rw [h]
    exact iff_of_false requireMapping_ne_fault (fun hError => by cases hError)
  · next h =>
    rw [h]
    exact iff_of_false (fun hError => by cases hError) (fun hError => by cases hError)
  · next fault' h =>
    rw [h]
    simp

/-- What escapes from the reading of a text is a conversion that fails in a reader that is asked. -/
theorem parse_eq_fault :
    parse formats hint text = .error (.fault fault) ↔ ConversionFails formats hint text fault := by
  unfold parse ConversionFails
  by_cases hYaml : hint = .yaml
  · rw [if_pos hYaml, parseYaml_eq_fault]
    simp [hYaml]
  · rw [if_neg hYaml]
    cases hJson : formats.json text with
    | ok v =>
      have hMapping : requireMapping v ≠ .error (.fault fault) := requireMapping_ne_fault
      simp [hYaml, hMapping]
    | error e =>
      cases e with
      | conversion fault' => simp [hYaml]
      | malformed complaint =>
        by_cases hHint : hint = .json
        · simp [hHint]
        · have hNone : hint = .none := by
            cases hint with
            | json => exact absurd rfl hHint
            | yaml => exact absurd rfl hYaml
            | none => rfl
          simp [hNone, parseYaml_eq_fault]

/-- Whether a text was read as a document or refused. -/
def Reported (parsed : Except DocumentError Entries) : Prop :=
  (∃ es, parsed = .ok es) ∨ ∃ r, parsed = .error (.refused r)

theorem reported_iff {parsed : Except DocumentError Entries} :
    Reported parsed ↔ ∀ fault, parsed ≠ .error (.fault fault) := by
  cases parsed with
  | ok es => exact iff_of_true (.inl ⟨es, rfl⟩) fun fault h => by cases h
  | error e =>
    cases e with
    | refused r => exact iff_of_true (.inr ⟨r, rfl⟩) fun fault h => by cases h
    | fault f =>
      refine iff_of_false ?_ fun h => h f rfl
      rintro (⟨es, h⟩ | ⟨r, h⟩)
      · cases h
      · cases h

end Document

-- ---------------------------------------------------------------------------
-- Sources without a text
-- ---------------------------------------------------------------------------

namespace Source

/-- Whether the reading of a source breaks off unreported: standard input can be read, but its bytes
are those of no text, or the system does not say whether a file is there. -/
def BreaksOff (w : World) : Source → Prop
  | .input => w.inputRefusal = none ∧ ∀ chars, w.input ≠ Text.Utf8.encode chars
  | .url _ => False
  | .file path => w.lookupRefusal path ≠ none

variable {w : World} {s : Source} {t : Trouble}

theorem breaksOff_of_readInput (h : readInput w = .error t) :
    t.failure? = none ↔ BreaksOff w .input := by
  unfold readInput World.inputText at h
  cases hRefusal : w.inputRefusal with
  | some reason =>
    simp only [hRefusal, World.textOf] at h
    cases h
    exact iff_of_false (fun h => by cases h) fun h => by simp [BreaksOff, hRefusal] at h
  | none =>
    simp only [hRefusal, World.textOf] at h
    cases hBytes : Text.Utf8.decode w.input with
    | error b =>
      simp only [hBytes] at h
      cases h
      refine iff_of_true rfl ⟨hRefusal, ?_⟩
      intro chars hChars
      rw [hChars, Text.Utf8.decode_encode] at hBytes
      cases hBytes
    | ok chars =>
      simp only [hBytes] at h
      split at h
      · cases h
        exact iff_of_false (fun h => by cases h) fun h =>
          h.2 chars (Text.Utf8.decode_eq_ok_iff.mp hBytes)
      · cases h

theorem breaksOff_of_readFile {path : FilePath} (h : readFile w path = .error t) :
    t.failure? = none ↔ BreaksOff w (.file path) := by
  rw [readFile, bind_eq_error] at h
  rcases h with hFile | ⟨b, hFile, h⟩
  · obtain ⟨reason, hRefusal, rfl⟩ := World.isFile_eq_error.mp hFile
    exact iff_of_true rfl (by simp [BreaksOff, hRefusal])
  · have hAnswered := (World.isFile_eq_ok.mp hFile).1
    have hReported : t.failure? ≠ none := by
      split at h
      · split at h
        · cases h
          exact fun h => by cases h
        · cases h
          exact fun h => by cases h
        · split at h
          · cases h
            exact fun h => by cases h
          · cases h
      · cases h
        exact fun h => by cases h
    exact iff_of_false hReported (not_not_intro hAnswered)

/-- **A source has no text and no problem that is reported** exactly if the reading of it breaks
off. -/
theorem breaksOff_iff (h : s.read w = .error t) : t.failure? = none ↔ s.BreaksOff w := by
  cases s with
  | input => exact breaksOff_of_readInput h
  | url text =>
    rw [read, fetch] at h
    split at h
    · cases h
      exact iff_of_false (fun h => by cases h) id
    · split at h
      · cases h
      · cases h
        exact iff_of_false (fun h => by cases h) id
  | file path => exact breaksOff_of_readFile h

theorem not_breaksOff_of_ok {text : SourceText} (h : s.read w = .ok text) : ¬ s.BreaksOff w := by
  cases s with
  | input =>
    rintro ⟨hRefusal, hNone⟩
    rw [read, readInput, World.inputText, hRefusal] at h
    cases hBytes : Text.Utf8.decode w.input with
    | error b =>
      simp only [World.textOf, hBytes] at h
      cases h
    | ok chars => exact hNone chars (Text.Utf8.decode_eq_ok_iff.mp hBytes)
  | url text => exact id
  | file path =>
    rw [read, readFile] at h
    obtain ⟨b, hFile, -⟩ := bind_eq_ok.mp h
    exact not_not_intro (World.isFile_eq_ok.mp hFile).1

end Source

-- ---------------------------------------------------------------------------
-- Runs without a document
-- ---------------------------------------------------------------------------

namespace LintRun

variable {r : LintRun}

theorem ending_of_no_document {t : Trouble} (hConfig : ∃ c, r.configuration = .ok c)
    (hDocument : r.document = .error t) : r.performance.ending = Run.endingOf t := by
  obtain ⟨c, hConfig⟩ := hConfig
  rw [ending_eq]
  exact Run.endingBy_of_error (Run.prepare_eq_error.mpr (.inr ⟨c, hConfig, .inl hDocument⟩))

/-- A run whose document cannot be loaded ends with the status for that, unless the reading of its
source breaks off or a conversion fails in a reader that is asked for the text. -/
theorem endsWith_of_no_document (hConfig : ∃ c, r.configuration = .ok c)
    (hDocument : ∀ es, r.document ≠ .ok es) :
    r.EndsWith 7 ↔ ¬ (Source.ofText r.source).BreaksOff r.world ∧
      ∀ text fault, (Source.ofText r.source).read r.world = .ok text →
        ¬ Document.ConversionFails r.world.formats text.hint text.content fault := by
  cases h : r.document with
  | ok es => exact absurd h (hDocument es)
  | error t =>
    rw [endsWith_document, ending_of_no_document hConfig h]
    -- either there is no text, and nothing to convert, or there is one that yields no document
    rcases Source.load_eq_error h with ⟨hText, hCause⟩ | ⟨text, e, hText, hRead, rfl⟩
    · have hNothing : ∀ text fault, (Source.ofText r.source).read r.world = .ok text →
          ¬ Document.ConversionFails r.world.formats text.hint text.content fault := by
        intro text fault h
        rw [hText] at h
        cases h
      rw [and_iff_left hNothing, ← Source.breaksOff_iff hText]
      rcases hCause with ⟨p, rfl⟩ | hUnreported
      · exact iff_of_true rfl fun h => by cases h
      · refine iff_of_false ?_ (not_not_intro hUnreported)
        rw [Run.endingOf, hUnreported]
        exact fun h => by cases h
    · have hOnly : (∀ text' fault, (Source.ofText r.source).read r.world = .ok text' →
          ¬ Document.ConversionFails r.world.formats text'.hint text'.content fault) ↔
            ∀ fault, Document.parse r.world.formats text.hint text.content ≠
              .error (.fault fault) := by
        rw [hText]
        constructor
        · intro h fault hFault
          exact h text fault rfl (Document.parse_eq_fault.mp hFault)
        · rintro h text' fault hText'
          cases hText'
          exact fun hFails => h fault (Document.parse_eq_fault.mpr hFails)
      rw [hOnly, hRead, and_iff_right (Source.not_breaksOff_of_ok hText)]
      cases e with
      | refused refusal => exact iff_of_true rfl fun fault hFault => by cases hFault
      | fault f => exact iff_of_false (fun hEnding => by cases hEnding) fun h => h f rfl

end LintRun

namespace Document

/-- **A text is read as a document or refused**, whatever the hint and whatever the readers, unless
a conversion fails in a reader that is asked. A run that resolves its configuration but cannot load
its document ends with status 7 under the same condition, unless already the reading of the source
breaks off. In JSON, only a run of too many digits is such a conversion. -/
theorem parse_reported (formats : Formats) (hint : FormatHint) (text : String) :
    (Reported (parse formats hint text) ↔
      ∀ fault, ¬ ConversionFails formats hint text fault) ∧
    (∀ r : LintRun, (∃ c, r.configuration = .ok c) → (∀ es, r.document ≠ .ok es) →
      (r.EndsWith 7 ↔ ¬ (Source.ofText r.source).BreaksOff r.world ∧
        ∀ text fault, (Source.ofText r.source).read r.world = .ok text →
          ¬ ConversionFails r.world.formats text.hint text.content fault)) ∧
    ∀ text fault, Formats.standard.json text = .error (.conversion fault) →
      Json.SpoiledBy text.toList fault := by
  refine ⟨?_, fun r => LintRun.endsWith_of_no_document, ?_⟩
  · rw [reported_iff]
    exact forall_congr' fun fault => not_congr parse_eq_fault
  · intro text fault h
    exact Json.spoiled_of_read (Formats.readJson_eq_conversion.mp h)

/-- A date that the calendar does not have is neither read nor refused. -/
theorem read_unreported : ¬ Reported (read .yaml "k: 2001-13-01\n") := by
  have hFault : (match read .yaml "k: 2001-13-01\n" with
      | .error (.fault (.calendar .month)) => true
      | _ => false) = true := by
    decide +kernel
  rw [reported_iff]
  intro h
  split at hFault
  · next hRead => exact h _ hRead
  · cases hFault

end Document

end ApiLint
