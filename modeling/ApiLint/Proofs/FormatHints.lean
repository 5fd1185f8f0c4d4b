import ApiLint.Proofs.DocumentLoading

/-!
# Hints of formats

A hint spares a text a guess at its format. Under each hint a document comes of the value that one
reader finds, and without a hint the reader of YAML is asked only if the text has not the format of
JSON. So without a hint a text is loaded as it is under one of the two hints, and the document is
the same. A text that is JSON but no mapping is refused, whatever it would be in YAML.

The readers are arbitrary. What they find in one text need not agree: a text can be a mapping in
both formats, with different values.

* `Document.parse_json_eq_ok`, `Document.parse_yaml_eq_ok`, `Document.parse_none_eq_ok` — the
  documents that come of a text under each hint;
* `Document.parse_of_no_mapping` — JSON that is no mapping;
* `Document.parse_hints` — the three ways compared.
-/

namespace ApiLint.Document

variable {formats : Formats} {hint : FormatHint} {text : String} {es : Entries}

-- ---------------------------------------------------------------------------
-- Documents
-- ---------------------------------------------------------------------------

theorem requireMapping_eq_ok {v : Value} : requireMapping v = .ok es ↔ v = .map es := by
  unfold requireMapping
  split
  · next es' => simp
  · simp
  · next hOther _ => exact iff_of_false (fun h => by cases h) (hOther es)

/-- A value that is no mapping is refused by its kind. -/
theorem requireMapping_of_other {v : Value} (hOther : ∀ es, v ≠ .map es) :
    ∃ kind, requireMapping v = .error (.refused (.notMapping kind)) := by
  unfold requireMapping
  split
  · next es => exact absurd rfl (hOther es)
  · exact ⟨_, rfl⟩
  · exact ⟨_, rfl⟩

/-- What was wrong with a text as JSON has no part in the document that it is in YAML. -/
theorem parseYaml_eq_ok {json : Option String} :
    parseYaml formats json text = .ok es ↔ formats.yaml text = .ok (.map es) := by
  unfold parseYaml
  split
  · next v hYaml => rw [hYaml, requireMapping_eq_ok, Except.ok.injEq]
  · next hYaml => simp [hYaml]
  · next fault hYaml => simp [hYaml]

theorem parse_yaml_eq_ok :
    parse formats .yaml text = .ok es ↔ formats.yaml text = .ok (.map es) := by
  rw [parse, if_pos rfl, parseYaml_eq_ok]

-- ---------------------------------------------------------------------------
-- What JSON says first
-- ---------------------------------------------------------------------------

/-- A value of JSON decides unless the hint is YAML. -/
theorem parse_of_json {v : Value} (hHint : hint ≠ .yaml) (h : formats.json text = .ok v) :
    parse formats hint text = requireMapping v := by
  simp only [parse, if_neg hHint, h]

/-- So does a conversion that fails. -/
theorem parse_of_conversion {fault : Fault} (hHint : hint ≠ .yaml)
    (h : formats.json text = .error (.conversion fault)) :
    parse formats hint text = .error (.fault fault) := by
  simp only [parse, if_neg hHint, h]

theorem parse_json_of_malformed {complaint : String}
    (h : formats.json text = .error (.malformed complaint)) :
    parse formats .json text = .error (.refused (.notJson complaint)) := by
  simp [parse, h]

theorem parse_none_of_malformed {complaint : String}
    (h : formats.json text = .error (.malformed complaint)) :
    parse formats .none text = parseYaml formats (some complaint) text := by
  simp [parse, h]

theorem parse_json_eq_ok :
    parse formats .json text = .ok es ↔ formats.json text = .ok (.map es) := by
  have hHint : FormatHint.json ≠ .yaml := by decide
  cases hJson : formats.json text with
  | ok v => rw [parse_of_json hHint hJson, requireMapping_eq_ok, Except.ok.injEq]
  | error e =>
    cases e with
    | malformed complaint => simp [parse_json_of_malformed hJson]
    | conversion fault => simp [parse_of_conversion hHint hJson]

theorem parse_none_eq_ok :
    parse formats .none text = .ok es ↔
      formats.json text = .ok (.map es) ∨
        (∃ complaint, formats.json text = .error (.malformed complaint)) ∧
          formats.yaml text = .ok (.map es) := by
  have hHint : FormatHint.none ≠ .yaml := by decide
  cases hJson : formats.json text with
  | ok v => simp [parse_of_json hHint hJson, requireMapping_eq_ok]
  | error e =>
    cases e with
    | malformed complaint => simp [parse_none_of_malformed hJson, parseYaml_eq_ok]
    | conversion fault => simp [parse_of_conversion hHint hJson]

/-- JSON that is no mapping is refused by its kind and not read again. -/
theorem parse_of_no_mapping {v : Value} (h : formats.json text = .ok v)
    (hOther : ∀ es, v ≠ .map es) :
    ∃ kind, ∀ yaml hint, hint ≠ .yaml →
      parse ⟨formats.json, yaml⟩ hint text = .error (.refused (.notMapping kind)) := by
  obtain ⟨kind, hKind⟩ := requireMapping_of_other hOther
  refine ⟨kind, fun yaml hint hHint => ?_⟩
  have hParse : parse ⟨formats.json, yaml⟩ hint text = requireMapping v := parse_of_json hHint h
  rw [hParse, hKind]

/-- **A hint spares a guess and does not change a document**, whatever the readers are. What a text
is under the hint JSON it is without a hint. What it is without a hint, it is under the hint JSON,
or JSON is refused and it is the same under the hint YAML. A text that has not the format of JSON is
without a hint what it is under the hint YAML. A text that is JSON but no mapping is refused with
the same words under the hint JSON and without a hint, and a conversion that fails in JSON breaks
off both; YAML has no part in either. -/
theorem parse_hints (formats : Formats) (text : String) :
    (∀ es, parse formats .json text = .ok es → parse formats .none text = .ok es) ∧
      (∀ es, parse formats .none text = .ok es →
        parse formats .json text = .ok es ∨
          (∃ r complaint, parse formats .json text = .error (.refused r) ∧
            r.message = "Invalid JSON: " ++ complaint) ∧
            parse formats .yaml text = .ok es) ∧
      ((∃ complaint, formats.json text = .error (.malformed complaint)) →
        ∀ es, parse formats .none text = .ok es ↔ parse formats .yaml text = .ok es) ∧
      (∀ v, formats.json text = .ok v → (∀ es, v ≠ .map es) →
        ∃ r kind, r.message = "Spec must be a JSON/YAML object (got " ++ kind ++ ")" ∧
          ∀ yaml hint, hint ≠ .yaml →
            parse ⟨formats.json, yaml⟩ hint text = .error (.refused r)) ∧
      ∀ fault, formats.json text = .error (.conversion fault) →
        ∀ yaml hint, hint ≠ .yaml →
          parse ⟨formats.json, yaml⟩ hint text = .error (.fault fault) := by
  refine ⟨?_, ?_, ?_, ?_, ?_⟩
  · intro es h
    exact parse_none_eq_ok.mpr (.inl (parse_json_eq_ok.mp h))
  · intro es h
    rcases parse_none_eq_ok.mp h with hJson | ⟨⟨complaint, hJson⟩, hYaml⟩
    · exact .inl (parse_json_eq_ok.mpr hJson)
    · exact .inr ⟨⟨_, complaint, parse_json_of_malformed hJson, rfl⟩, parse_yaml_eq_ok.mpr hYaml⟩
  · rintro ⟨complaint, hJson⟩ es
    rw [parse_none_of_malformed hJson, parseYaml_eq_ok, parse_yaml_eq_ok]
  · intro v hJson hOther
    obtain ⟨kind, hRefused⟩ := parse_of_no_mapping hJson hOther
    exact ⟨_, kind, rfl, hRefused⟩
  · intro fault hJson yaml hint hHint
    exact parse_of_conversion hHint hJson

/-- A mapping in both formats, whose value is a number in JSON and a text in YAML. -/
def ambiguousText : String := "\x7b\"a\": 1e5\x7d"

/-- A mapping in YAML alone. -/
def unquotedText : String := "\x7ba: 1e5\x7d"

/-- A list in both formats. -/
def listText : String := "[1e5]"

/-- The key and the scalar of a mapping of one entry. -/
def single? : Entries → Option (String × Scalar)
  | [(.str name, .scalar s)] => some (name, s)
  | _ => none

theorem eq_of_single? {name : String} {s : Scalar} (h : single? es = some (name, s)) :
    es = [(.str name, .scalar s)] := by
  unfold single? at h
  split at h
  · cases h
    rfl
  · cases h

theorem read_of_single? {name : String} {s : Scalar}
    (h : (read hint text).toOption.bind single? = some (name, s)) :
    read hint text = .ok [(.str name, .scalar s)] := by
  obtain ⟨es, hRead, hSingle⟩ := Option.bind_eq_some_iff.mp h
  rw [Outcome.eq_ok_of_toOption hRead, eq_of_single? hSingle]

theorem parse_hints_ambiguous :
    (read .json ambiguousText = .ok [(.str "a", .float (.ofInt 100000))] ∧
        read .none ambiguousText = .ok [(.str "a", .float (.ofInt 100000))]) ∧
      read .yaml ambiguousText = .ok [(.str "a", .str "1e5")] ∧
      (∃ r complaint, read .json unquotedText = .error (.refused r) ∧
        r.message = "Invalid JSON: " ++ complaint) ∧
      read .none unquotedText = .ok [(.str "a", .str "1e5")] ∧
      ∃ r, read .json listText = .error (.refused r) ∧
        read .none listText = .error (.refused r) := by
  have hHinted : read .json ambiguousText = .ok [(.str "a", .float (.ofInt 100000))] := by
    apply read_of_single?
    decide +kernel
  have hYaml : read .yaml ambiguousText = .ok [(.str "a", .str "1e5")] := by
    apply read_of_single?
    decide +kernel
  have hUnquoted : read .none unquotedText = .ok [(.str "a", .str "1e5")] := by
    apply read_of_single?
    decide +kernel
  have hNotJson : (read .json unquotedText).toOption.isNone = true := by
    decide +kernel
  obtain ⟨v, hList, hItems⟩ : ∃ v, Formats.standard.json listText = .ok v ∧
      v.items?.isSome = true := by
    have hValue : ((Formats.standard.json listText).toOption.any fun v => v.items?.isSome) = true := by
      decide +kernel
    obtain ⟨v, hv, hItems⟩ := (Option.any_eq_true _ _).mp hValue
    exact ⟨v, Outcome.eq_ok_of_toOption hv, hItems⟩
  obtain ⟨hSame, -⟩ := parse_hints .standard ambiguousText
  obtain ⟨-, hEither, -⟩ := parse_hints .standard unquotedText
  obtain ⟨-, -, -, hNoMapping, -⟩ := parse_hints .standard listText
  have hOther : ∀ es, v ≠ .map es := by
    rintro es rfl
    cases hItems
  obtain ⟨r, -, -, hRefused⟩ := hNoMapping v hList hOther
  refine ⟨⟨hHinted, hSame _ hHinted⟩, hYaml, ?_, hUnquoted,
    r, hRefused _ .json (by decide), hRefused _ .none (by decide)⟩
  rcases hEither _ hUnquoted with hJson | ⟨hMalformed, -⟩
  · have hLoaded : read .json unquotedText = .ok [(.str "a", .str "1e5")] := hJson
    rw [hLoaded] at hNotJson
    cases hNotJson
  · exact hMalformed

end ApiLint.Document
