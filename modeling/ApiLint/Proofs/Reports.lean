import ApiLint.Cli.Run
import ApiLint.Proofs.Coverage
import ApiLint.Proofs.JsonWriting
import ApiLint.Proofs.PlainTable

/-!
# Reading reports

A report is for other programs, in JSON or as plain lines, and can be read by them.

In JSON nothing is lost, whatever the texts of the findings are: it is one document, and the reader
of JSON finds in it the errors and the warnings that the report shows, each with the texts it has.

Plain lines are not escaped. A message always fits into its column, but a place holds the key of a
path and may hold the name of an answer, which a document chooses freely. So plain lines can be read
exactly if none of these has a tab or a line feed in it.

* `Run.lint_report` — a run writes a report of the findings that it shows;
* `Report.json_lossless` — a report in JSON is read back;
* `Report.json_determines` — two reports in JSON are the same only if they show the same findings;
* `Report.runWith_plain` — which plain reports of a run are read back;
* `Report.runWith_plain_forged` — a document that writes a line of its own into a plain report.
-/

namespace ApiLint

open Outcome

/-- The findings that a report shows: all of them, or the errors alone. -/
def Findings.shown (f : Findings) (errorsOnly : Bool) : Findings :=
  if errorsOnly then f.errorsOnly else f

theorem Findings.shown_false (f : Findings) : f.shown false = f := rfl

@[simp] theorem Findings.shown_errors (f : Findings) (errorsOnly : Bool) :
    (f.shown errorsOnly).errors = f.errors := by
  cases errorsOnly <;> rfl

@[simp] theorem Findings.shown_warnings (f : Findings) (errorsOnly : Bool) :
    (f.shown errorsOnly).warnings = if errorsOnly then [] else f.warnings := by
  cases errorsOnly <;> rfl

/-- A run that completes writes the findings that it shows to standard output, and its last words
on standard error count them. -/
theorem Run.lint_report {w : World} {source : String} {config : Option String}
    {ready : Preparation} (hReady : (prepare w source config).result = .ok ready)
    {found : Findings} (hRun : Lint.run ready.document ready.config.operations = .ok found)
    (p : Presentation) (errorsOnly : Bool) :
    (lint w p source config errorsOnly).out = Report.output p (found.shown errorsOnly) ∧
      ∃ before, (lint w p source config errorsOnly).err =
        before ++ Report.summary p (found.shown errorsOnly) := by
  unfold lint
  simp only [hReady, hRun]
  exact ⟨rfl, _, rfl⟩

/-- A finding as a value of two fields. -/
def Finding.toValue (f : Finding) : Value :=
  .map [(.str "path", .str f.path), (.str "message", .str f.message)]

theorem Finding.toValue_injective : Function.Injective Finding.toValue := by
  intro f g h
  obtain ⟨path, message⟩ := f
  obtain ⟨path', message'⟩ := g
  simp only [toValue, Value.map.injEq, List.cons.injEq, Prod.mk.injEq, Value.scalar.injEq,
    Scalar.str.injEq, true_and, and_true] at h
  rw [h.1, h.2]

namespace Report

-- ---------------------------------------------------------------------------
-- The document of a report
-- ---------------------------------------------------------------------------

open Json (Tree)

theorem findingTree_textual (f : Finding) : (findingTree f).Textual :=
  Tree.textual_obj_pair (.str f.path) (.str f.message)

theorem findingTree_toValue (f : Finding) : (findingTree f).toValue = f.toValue :=
  Tree.toValue_obj_pair (by decide) _ _

theorem tree_textual (f : Findings) : (tree f).Textual :=
  Tree.textual_obj_pair (Tree.textual_arr_map findingTree_textual f.errors)
    (Tree.textual_arr_map findingTree_textual f.warnings)

/-- What a report stands for: the two lists, each finding with its two texts. -/
def value (errors warnings : List Value) : Value :=
  .map [(.str "errors", .list errors), (.str "warnings", .list warnings)]

theorem tree_toValue (f : Findings) :
    (tree f).toValue = value (f.errors.map Finding.toValue) (f.warnings.map Finding.toValue) := by
  rw [tree, Tree.toValue_obj_pair (by decide), Tree.toValue_arr_map findingTree_toValue,
    Tree.toValue_arr_map findingTree_toValue, value]

/-- The document ends with the bracket that closes it, so it takes no line break with it. -/
theorem getLast?_render_tree (f : Findings) : (tree f).render.toList.getLast? = some '\x7d' := by
  rw [Tree.render, String.toList_ofList]
  exact Tree.getLast?_chars_obj _ 0

-- ---------------------------------------------------------------------------
-- Reading a report in JSON
-- ---------------------------------------------------------------------------

variable {p : Presentation}

theorem output_of_json (hFormat : p.format = .json) (f : Findings) :
    output p f = (tree f).render ++ "\n" := by
  rw [output, hFormat]

theorem readJson_render (f : Findings) {blanks : String}
    (hBlanks : ∀ c ∈ blanks.toList, Json.isSpace c) :
    Formats.readJson ((tree f).render ++ blanks) =
      .ok (value (f.errors.map Finding.toValue) (f.warnings.map Finding.toValue)) := by
  have hRead := Json.read_render (tree_textual f) hBlanks
  rw [tree_toValue] at hRead
  rw [Formats.readJson, hRead]

theorem summary_eq (p : Presentation) (f : Findings) :
    summary p f = p.message
      (if 0 < f.errors.length then .error else if 0 < f.warnings.length then .warning else .success)
      (summarize f.errors.length f.warnings.length) := by
  have hKind : summaryKind f = if 0 < f.errors.length then .error
      else if 0 < f.warnings.length then .warning else .success := by
    simp [summaryKind, List.length_pos_iff]
  rw [summary, hKind]

/-- **The report in JSON is lossless**, whatever the texts of the findings are. It is one document
with a line break after it, and the reader of the loader finds in it, with or without the line
break, the errors and the warnings that are shown, in order and with the same texts. The message on
standard error is the one for these two lists. -/
theorem json_lossless (hFormat : p.format = .json) (found : Findings) (errorsOnly : Bool) :
    ∃ document errors warnings,
      output p (found.shown errorsOnly) = document ++ "\n" ∧
        document.toList.getLast? = some '\x7d' ∧
        Formats.readJson document = .ok (value errors warnings) ∧
        Formats.readJson (output p (found.shown errorsOnly)) = .ok (value errors warnings) ∧
        errors = found.errors.map Finding.toValue ∧
        warnings = (if errorsOnly then [] else found.warnings.map Finding.toValue) ∧
        summary p (found.shown errorsOnly) = p.message
          (if 0 < errors.length then .error
            else if 0 < warnings.length then .warning else .success)
          (summarize errors.length warnings.length) := by
  have hOutput := output_of_json hFormat (found.shown errorsOnly)
  have hNone : ∀ c ∈ "".toList, Json.isSpace c := by simp
  have hBreak : ∀ c ∈ "\n".toList, Json.isSpace c := by simp [Json.isSpace]
  have hDocument := readJson_render (found.shown errorsOnly) hNone
  have hReport := readJson_render (found.shown errorsOnly) hBreak
  have hWarnings : (found.shown errorsOnly).warnings.map Finding.toValue =
      if errorsOnly then [] else found.warnings.map Finding.toValue := by
    rw [Findings.shown_warnings]
    split
    · rfl
    · rfl
  rw [String.append_empty] at hDocument
  rw [Findings.shown_errors, hWarnings] at hDocument hReport
  refine ⟨_, _, _, hOutput, getLast?_render_tree _, hDocument, hOutput ▸ hReport, rfl, rfl, ?_⟩
  rw [summary_eq, ← hWarnings, List.length_map, List.length_map, Findings.shown_errors]

/-- Findings whose texts have all that a string has to escape, and more. -/
def quotedFindings : Findings where
  errors := [⟨"paths./a\"b\\c\x7d\n.get\t", "\x00\x1f\x7f \\u0041 é\u2028😀"⟩, ⟨"", "],\r\x08\x0c"⟩]
  warnings := [⟨"[1]", "hidden"⟩]

/-- A presentation in JSON. -/
def jsonPresentation : Presentation := ⟨.json, false, false, false, false, 80, 80⟩

theorem json_lossless_quoted :
    jsonPresentation.format = .json ∧
      Formats.readJson (output jsonPresentation (quotedFindings.shown true)) =
        .ok (value (quotedFindings.errors.map Finding.toValue) []) ∧
      summary jsonPresentation (quotedFindings.shown true) = "Error: 2 error(s), 0 warning(s)\n" := by
  obtain ⟨_, errors, warnings, -, -, -, hRead, rfl, rfl, hSummary⟩ :=
    json_lossless (p := jsonPresentation) rfl quotedFindings true
  refine ⟨rfl, hRead, hSummary.trans ?_⟩
  decide +kernel

/-- **A report in JSON determines what it shows.** -/
theorem json_determines (hFormat : p.format = .json) {f g : Findings}
    (h : output p f = output p g) : f = g := by
  have hValue : value (f.errors.map Finding.toValue) (f.warnings.map Finding.toValue) =
      value (g.errors.map Finding.toValue) (g.warnings.map Finding.toValue) := by
    have hBlanks : ∀ c ∈ "\n".toList, Json.isSpace c := by simp [Json.isSpace]
    rw [output_of_json hFormat, output_of_json hFormat] at h
    exact Except.ok.inj ((readJson_render f hBlanks).symm.trans
      ((congrArg Formats.readJson h).trans (readJson_render g hBlanks)))
  simp only [value, Value.map.injEq, List.cons.injEq, Prod.mk.injEq, Value.list.injEq, true_and,
    and_true, List.map_inj_right fun _ _ h => Finding.toValue_injective h] at hValue
  obtain ⟨errors, warnings⟩ := f
  obtain ⟨errors', warnings'⟩ := g
  exact congrArg₂ Findings.mk hValue.1 hValue.2

end Report

-- ---------------------------------------------------------------------------
-- Places in a plain report
-- ---------------------------------------------------------------------------

open Table (FitsCell FitsLine fitsCell_intercalate)

theorem Target.fitsCell_last (t : Target) : FitsCell t.last := by
  cases t with
  | parameter i =>
    have hDigits : ∀ c ∈ ['\t', '\n'], c ∉ Decimal.digits i := by
      intro c hc hDigit
      have hNone : ∀ c ∈ ['\t', '\n'], Decimal.isDigit c = false := by simp [Decimal.isDigit]
      have := Decimal.isDigit_of_mem_digits hDigit
      rw [hNone c hc] at this
      cases this
    have hNumber : FitsCell (Decimal.ofNat i) := by
      rw [FitsCell, Decimal.toList_ofNat]
      exact ⟨hDigits _ (by decide), hDigits _ (by decide)⟩
    simp only [last, Table.fitsCell_append]
    exact ⟨⟨⟨by decide, by decide⟩, hNumber⟩, by decide⟩
  | _ =>
    rw [last]
    decide

/-- Of the keys that lead to a target, only the path and the name of an answer may not fit. -/
theorem Operation.fitsCell_locate {op : Operation} (hMethod : op.method ∈ methods) (t : Target) :
    FitsCell (op.locate t) ↔ FitsCell op.path ∧ ∀ name, t = .answer name → FitsCell name := by
  have hMethods : ∀ m ∈ methods, FitsCell m := by decide
  have hRoot : FitsCell "paths" := by decide
  have hInner : (∀ key ∈ t.inner, FitsCell key) ↔ ∀ name, t = .answer name → FitsCell name := by
    cases t with
    | answer name =>
      have hResponses : FitsCell "responses" := by decide
      simp [Target.inner, hResponses]
    | _ => simp [Target.inner]
  rw [locate, place, fitsCell_intercalate (by decide)]
  simp only [List.forall_mem_cons, List.forall_mem_append, hInner, hRoot, hMethods _ hMethod,
    t.fitsCell_last, true_and]
  simp

theorem Rule.text_of_mem_arrayName {document : Value} {answer : Key × Value} {names : List String}
    (h : arrayName document answer = .ok names) {name : String} (hName : name ∈ names) :
    answer.1.text = .ok name := by
  obtain ⟨isArray, -, h⟩ := bind_eq_ok.mp h
  cases isArray with
  | false =>
    cases h
    cases hName
  | true =>
    obtain ⟨text, hText, h⟩ := bind_eq_ok.mp h
    cases h
    rw [List.mem_singleton.mp hName]
    exact hText

/-- What a rule finds are targets, and an answer among them has the text of its key as name. -/
theorem Rule.named_places {document : Entries} {op : Operation} {rule : Rule}
    {places : List String} (h : rule.places document op = .ok places) {place : String}
    (hPlace : place ∈ places) :
    ∃ t, place = op.locate t ∧
      ∀ name, t = .answer name → ∃ answer ∈ op.answers, answer.1.text = .ok name := by
  by_cases hRule : rule = .arrayResponse
  · subst hRule
    rw [places_arrayResponse] at h
    split at h
    · cases h
      cases hPlace
    · obtain ⟨names, hNames, rfl⟩ := map_eq_ok.mp h
      obtain ⟨name, hName, rfl⟩ := List.mem_map.mp hPlace
      rw [arrayResponses_eq_gather] at hNames
      obtain ⟨answer, hAnswer, found, hFound, hName⟩ := mem_of_gather hNames name hName
      refine ⟨.answer name, rfl, ?_⟩
      rintro _ ⟨⟩
      exact ⟨answer, hAnswer, text_of_mem_arrayName hFound hName⟩
  · obtain ⟨ts, rfl, hAims, -⟩ := targeted_places h
    obtain ⟨t, ht, rfl⟩ := List.mem_map.mp hPlace
    refine ⟨t, rfl, ?_⟩
    rintro name rfl
    cases hAims _ ht
    exact absurd rfl hRule

theorem Rule.fitsCell_message (rule : Rule) : FitsCell rule.message := by
  cases rule <;> decide +kernel

/-- Where a finding is: at a target in an operation of the document. The name of an answer is the
text of its key. -/
structure Finding.At (document : Entries) (f : Finding) (op : Operation) (t : Target) : Prop where
  stands : op.StandsIn document
  path : f.path = op.locate t
  named : ∀ name, t = .answer name → ∃ answer ∈ op.answers, answer.1.text = .ok name

theorem Finding.At.fitsCell_iff {document : Entries} {f : Finding} {op : Operation} {t : Target}
    (h : f.At document op t) :
    FitsCell f.path ↔ FitsCell op.path ∧ ∀ name, t = .answer name → FitsCell name := by
  have hMethod : op.method ∈ Operation.methods :=
    Operation.method_mem_methods (Operation.operation_mem_encounters.mpr h.stands)
  rw [h.path]
  exact Operation.fitsCell_locate hMethod t

/-- A finding of a run is at a target and says what a rule says. -/
theorem Lint.at_of_run {document : Entries} {severities : Severities} {found : Findings}
    (h : run document severities = .ok found) {f : Finding}
    (hf : f ∈ found.errors ++ found.warnings) :
    ∃ op t rule, f.At document op t ∧ f.message = Rule.message rule := by
  obtain ⟨is, hIssues, rfl⟩ := run_eq_ok.mp h
  rw [findings_sort] at hf
  obtain ⟨i, hi, rfl⟩ := List.mem_map.mp hf
  have hMem : i ∈ is := by
    rcases List.mem_append.mp hi with hi | hi
    · exact (List.mem_filter.mp hi).1
    · exact (List.mem_filter.mp hi).1
  obtain ⟨op, hOp, js, hjs, hMem⟩ := mem_of_gather (gather_issuesIn_visited hIssues) i hMem
  rw [issuesIn_eq_gather] at hjs
  obtain ⟨rule, -, ks, hks, hMem⟩ := mem_of_gather hjs i hMem
  rw [issuesOf_eq_map] at hks
  obtain ⟨places, hPlaces, rfl⟩ := map_eq_ok.mp hks
  obtain ⟨⟨place, index⟩, hPlace, rfl⟩ := List.mem_map.mp hMem
  obtain ⟨t, rfl, hNamed⟩ := Rule.named_places hPlaces (List.fst_mem_of_mem_zipIdx hPlace)
  exact ⟨op, t, rule, ⟨Operation.mem_visited.mp hOp, rfl, hNamed⟩, rfl⟩

-- ---------------------------------------------------------------------------
-- Reading a plain report
-- ---------------------------------------------------------------------------

namespace Report

/-- The rows of a report with their headers: the severity, the place and the message of every
finding, errors first. -/
def grid (f : Findings) : List (List String) :=
  ["Severity", "Path", "Message"] ::
    (f.errors.map (fun g => ["error", g.path, g.message]) ++
      f.warnings.map fun g => ["warning", g.path, g.message])

theorem fitsLine_row (severity : Severity) (g : Finding) :
    FitsLine (row severity g) ↔ FitsCell g.path ∧ FitsCell g.message := by
  have hSeverity : FitsCell severity.name := by
    cases severity <;> decide
  simp [FitsLine, row, hSeverity]

theorem fitsLine_grid (f : Findings) :
    (∀ row ∈ grid f, FitsLine row) ↔
      ∀ g ∈ f.errors ++ f.warnings, FitsCell g.path ∧ FitsCell g.message := by
  have hHeaders : FitsLine ["Severity", "Path", "Message"] := by decide
  show (∀ line ∈ _ :: rows f, FitsLine line) ↔ _
  rw [List.forall_mem_cons, and_iff_right hHeaders, rows, List.forall_mem_append,
    List.forall_mem_append, List.forall_mem_map, List.forall_mem_map]
  simp only [fitsLine_row]

variable {p : Presentation}

theorem output_of_plain (hFormat : p.format = .plain) {f : Findings}
    (hSome : f.errors ++ f.warnings ≠ []) : output p f = (table f).plain := by
  have hRows : (rows f).isEmpty = false := by
    rw [List.isEmpty_eq_false_iff, rows]
    simpa using hSome
  simp only [output, hFormat, hRows, Presentation.table]
  rfl

theorem readPlain_output_iff (hFormat : p.format = .plain) {f : Findings}
    (hSome : f.errors ++ f.warnings ≠ []) :
    Table.readPlain (output p f) = grid f ↔
      ∀ g ∈ f.errors ++ f.warnings, FitsCell g.path ∧ FitsCell g.message := by
  rw [output_of_plain hFormat hSome, ← fitsLine_grid]
  exact Table.readPlain_plain_iff (table f)

theorem mem_shown {found : Findings} {errorsOnly : Bool} {f : Finding}
    (h : f ∈ (found.shown errorsOnly).errors ++ (found.shown errorsOnly).warnings) :
    f ∈ found.errors ++ found.warnings := by
  cases errorsOnly with
  | false => exact h
  | true =>
    rw [Findings.shown_errors, Findings.shown_warnings, if_pos rfl, List.append_nil] at h
    exact List.mem_append_left _ h

/-- **Which plain reports are read back.** A run completes, and something is reported. Splitting the
report at line feeds and tabs gives its rows exactly if the places fit into their column. A place
leads to an operation of the document and fits if the path does and, for an answer, the name of the
answer; so a report is read back whenever the document uses neither tabs nor line feeds in these. -/
theorem runWith_plain (hFormat : p.format = .plain) {document : Entries} {settings : Settings}
    {found : Findings} (hRun : Lint.runWith document settings = .ok found) {errorsOnly : Bool}
    {shown : Findings} (hShown : found.shown errorsOnly = shown)
    (hSome : shown.errors ++ shown.warnings ≠ []) :
    (Table.readPlain (output p shown) = grid shown ↔
        ∀ f ∈ shown.errors ++ shown.warnings, FitsCell f.path) ∧
      (∀ f ∈ shown.errors ++ shown.warnings, ∃ op t, f.At document op t ∧
        (FitsCell f.path ↔ FitsCell op.path ∧ ∀ name, t = .answer name → FitsCell name)) ∧
      ((∀ op : Operation, op.StandsIn document → FitsCell op.path ∧
          ∀ answer ∈ op.answers, ∀ name, answer.1.text = .ok name → FitsCell name) →
        Table.readPlain (output p shown) = grid shown) := by
  rw [Lint.runWith_eq_run] at hRun
  have hAt : ∀ f ∈ shown.errors ++ shown.warnings,
      ∃ op t rule, f.At document op t ∧ f.message = Rule.message rule := by
    subst hShown
    exact fun f hf => Lint.at_of_run hRun (mem_shown hf)
  have hRead : Table.readPlain (output p shown) = grid shown ↔
      ∀ f ∈ shown.errors ++ shown.warnings, FitsCell f.path := by
    rw [readPlain_output_iff hFormat hSome]
    refine forall₂_congr fun f hf => and_iff_left ?_
    obtain ⟨op, t, rule, -, hMessage⟩ := hAt f hf
    rw [hMessage]
    exact rule.fitsCell_message
  refine ⟨hRead, ?_, ?_⟩
  · intro f hf
    obtain ⟨op, t, rule, h, -⟩ := hAt f hf
    exact ⟨op, t, h, h.fitsCell_iff⟩
  · intro hKeys
    refine hRead.mpr fun f hf => ?_
    obtain ⟨op, t, rule, h, -⟩ := hAt f hf
    obtain ⟨hPath, hAnswers⟩ := hKeys op h.stands
    refine h.fitsCell_iff.mpr ⟨hPath, fun name ht => ?_⟩
    obtain ⟨answer, hAnswer, hText⟩ := h.named name ht
    exact hAnswers answer hAnswer name hText

/-- A plain presentation. -/
def plainPresentation : Presentation := ⟨.plain, false, false, false, false, 80, 80⟩

/-- A document whose path and answers have dots, blanks and line breaks other than line feeds in
them. -/
def tabularDocument : Entries := [
  (.str "paths", .map [
    (.str "/a b.\r\x0b", .map [
      (.str "get", .map [
        (.str "responses", .map [
          (.int 200, .map [(.str "schema", .map [(.str "type", .str "array")])]),
          (.str "4xx.\u2028", .map [(.str "schema", .map [(.str "type", .str "array")])])])])])])]

/-- Missing summaries are warnings, answers that are arrays errors, and all else is off. -/
def tabularSettings : Settings := .model <| .ofFun fun rule =>
  match rule with
  | .arrayResponse => .error
  | .summary => .warning
  | _ => .off

def tabularFindings : Findings where
  errors := [⟨"paths./a b.\r\x0b.get.responses.200.schema", Rule.arrayResponse.message⟩,
    ⟨"paths./a b.\r\x0b.get.responses.4xx.\u2028.schema", Rule.arrayResponse.message⟩]
  warnings := [⟨"paths./a b.\r\x0b.get.summary", Rule.summary.message⟩]

theorem runWith_plain_tabular :
    Lint.runWith tabularDocument tabularSettings = .ok tabularFindings ∧
      Table.readPlain (output plainPresentation tabularFindings) =
        ["Severity", "Path", "Message"] ::
          ["error", "paths./a b.\r\x0b.get.responses.200.schema", Rule.arrayResponse.message] ::
          ["error", "paths./a b.\r\x0b.get.responses.4xx.\u2028.schema",
            Rule.arrayResponse.message] ::
          [["warning", "paths./a b.\r\x0b.get.summary", Rule.summary.message]] := by
  have hRun : Lint.runWith tabularDocument tabularSettings = .ok tabularFindings := by
    decide +kernel
  have hSome : tabularFindings.errors ++ tabularFindings.warnings ≠ [] :=
    List.cons_ne_nil _ _
  obtain ⟨hRead, -, -⟩ := runWith_plain (p := plainPresentation) rfl hRun
    (Findings.shown_false tabularFindings) hSome
  refine ⟨hRun, hRead.mpr ?_⟩
  decide +kernel

/-- A document with one path, which has tabs and a line feed in it. -/
def forgingDocument : Entries := [
  (.str "paths", .map [
    (.str "/a.get.summary\tdone\nerror\tpaths./b", .map [(.str "get", .map [])])])]

/-- The one finding in it. -/
def forgingFindings : Findings where
  errors := []
  warnings := [⟨"paths./a.get.summary\tdone\nerror\tpaths./b.get.summary", Rule.summary.message⟩]

/-- **A document can write into a plain report.** The one warning of this run is read as a warning
about one operation and an error about another one. -/
theorem runWith_plain_forged :
    Lint.runWith forgingDocument tabularSettings = .ok forgingFindings ∧
      Table.readPlain (output plainPresentation (forgingFindings.shown false)) =
        [["Severity", "Path", "Message"], ["warning", "paths./a.get.summary", "done"],
          ["error", "paths./b.get.summary", Rule.summary.message]] ∧
      Table.readPlain (output plainPresentation (forgingFindings.shown false)) ≠
        grid (forgingFindings.shown false) := by
  have hRun : Lint.runWith forgingDocument tabularSettings = .ok forgingFindings := by
    decide +kernel
  have hRead : Table.readPlain (output plainPresentation (forgingFindings.shown false)) =
      [["Severity", "Path", "Message"], ["warning", "paths./a.get.summary", "done"],
        ["error", "paths./b.get.summary", Rule.summary.message]] := by
    decide +kernel
  refine ⟨hRun, hRead, ?_⟩
  rw [hRead]
  intro hRows
  exact absurd (congrArg List.length hRows) (by decide)

end Report

end ApiLint
