import ApiLint.Cli.Run
import ApiLint.Proofs.TableReading

/-!
# What a listing of the rules shows

The listing is a table with one row for each rule. Its descriptions are the widest cells, so on a
terminal with too few columns they give way first, and a reader still finds every key with its
severity until the descriptions have become as narrow as the keys are. On narrower terminals the
longest key is broken.

* `Listing.Shows` — what a reader finds in a listing;
* `Listing.widths_rulesTable` — the columns of a boxed listing;
* `Listing.shows_iff` — what a legible listing shows, in any format;
* `Listing.rows_in_order` — the order of its rows;
* `Listing.not_shows_of_narrow` — what a narrower terminal hides.
-/

namespace ApiLint

namespace Listing

/-- The columns of a listing. -/
def headers : List String := ["Module", "Rule", "Severity", "Description"]

/-- What stands under a header in a row. -/
def cell (header : String) (row : List String) : Option String := (headers.zip row).lookup header

/-- Whether a listing shows a rule with a severity: a reader finds a row with the key of the rule
and the name of the severity in their columns. -/
def Shows (format : ReportFormat) (out : String) (rule : Rule) (severity : Severity) : Prop :=
  ∃ rows, Table.readRows headers format out = some rows ∧
    ∃ row ∈ rows, cell "Rule" row = some rule.key ∧ cell "Severity" row = some severity.name

variable {severities : Severities}

/-- The row of a rule. -/
def rowOf (severities : Severities) (rule : Rule) : List String :=
  [Config.operationsKey, rule.key, (severities.of rule).name, rule.description]

theorem rows_rulesTable (severities : Severities) :
    (Run.rulesTable severities).rows = Rule.all.map (rowOf severities) := rfl

/-- A text that no format changes. -/
def Fits (text : String) : Prop := Table.FitsBox text ∧ Table.FitsCell text

instance (text : String) : Decidable (Fits text) := inferInstanceAs (Decidable (_ ∧ _))

theorem fits_row (severities : Severities) (rule : Rule) :
    ∀ text ∈ rowOf severities rule, Fits text := by
  have hSection : Fits Config.operationsKey := by decide
  have hKey : Fits rule.key := by cases rule <;> decide +kernel
  have hName : ∀ severity : Severity, Fits severity.name := by
    intro severity
    cases severity <;> decide
  have hDescription : Fits rule.description := by cases rule <;> decide +kernel
  simp [rowOf, hSection, hKey, hName, hDescription]

theorem readable_rulesTable (severities : Severities) : (Run.rulesTable severities).Readable := by
  have hHeaders : ∀ header ∈ headers, Fits header := by decide
  refine ⟨⟨?_, List.cons_ne_nil _ _, fun header h => (hHeaders header h).1, ?_⟩, ?_, ?_⟩
  · rintro _ ⟨⟩
    decide
  · intro row hRow
    obtain ⟨rule, -, rfl⟩ := List.mem_map.mp hRow
    exact ⟨rfl, fun text h => (fits_row severities rule text h).1⟩
  · show headers.Nodup
    decide
  · refine List.forall_mem_cons.mpr
      ⟨⟨List.cons_ne_nil _ _, fun header h => (hHeaders header h).2⟩, ?_⟩
    intro row hRow
    obtain ⟨rule, -, rfl⟩ := List.mem_map.mp hRow
    exact ⟨List.cons_ne_nil _ _, fun text h => (fits_row severities rule text h).2⟩

-- ---------------------------------------------------------------------------
-- Room
-- ---------------------------------------------------------------------------

/-- The columns of a terminal that has room for the keys and the severities of a boxed listing. -/
def boxColumns : Nat := 84

/-- Whether keys and severities are whole in the listing of a run. -/
def Legible (p : Presentation) : Prop := p.format = .rich → boxColumns ≤ p.columns

instance (p : Presentation) : Decidable (Legible p) := inferInstanceAs (Decidable (_ → _))

theorem columnCount_rulesTable (severities : Severities) :
    (Run.rulesTable severities).columnCount = 4 :=
  (readable_rulesTable severities).columnCount_eq

theorem width_key_le (rule : Rule) : rule.key.length + Table.padding ≤ 29 := by
  cases rule <;> decide +kernel

theorem width_name_le (severity : Severity) : severity.name.length + Table.padding ≤ 10 := by
  cases severity <;> decide +kernel

theorem naturalWidths_rulesTable (severities : Severities) :
    (Run.rulesTable severities).naturalWidths = [12, 29, 10, 67] := by
  let widest (header : String) (text : Rule → String) : Nat :=
    ((header.length + Table.padding) ::
      Rule.all.map fun rule => (text rule).length + Table.padding).foldl max 0
  have hModule : widest "Module" (fun _ => Config.operationsKey) = 12 := by decide +kernel
  have hRule : widest "Rule" Rule.key = 29 := by decide +kernel
  have hDescription : widest "Description" Rule.description = 67 := by decide +kernel
  -- no name of a severity is wider than the header above it
  have hSeverity : widest "Severity" (fun rule => (severities.of rule).name) = 10 := by
    have hHeader : "Severity".length + Table.padding = 10 := by decide +kernel
    exact Table.foldl_max_eq (List.mem_cons.mpr (.inl hHeader.symm)) (List.forall_mem_cons.mpr
      ⟨hHeader.le, List.forall_mem_map.mpr fun rule _ => width_name_le (severities.of rule)⟩)
  have hColumn : ∀ i, ((Run.rulesTable severities).headers :: (Run.rulesTable severities).rows).map
      (fun row => (row.getD i "").length + Table.padding) =
        ((headers.getD i "").length + Table.padding) :: Rule.all.map fun rule =>
          ((rowOf severities rule).getD i "").length + Table.padding := by
    intro i
    rw [List.map_cons, rows_rulesTable, List.map_map]
    rfl
  rw [(readable_rulesTable severities).naturalWidths_eq]
  simp only [hColumn]
  show [widest "Module" fun _ => Config.operationsKey, widest "Rule" Rule.key,
    widest "Severity" fun rule => (severities.of rule).name,
    widest "Description" Rule.description] = _
  rw [hModule, hRule, hSeverity, hDescription]

variable {columns : Nat}

theorem widths_rulesTable (severities : Severities) (h : boxColumns ≤ columns) :
    (Run.rulesTable severities).widths columns = [12, 29, 10, min 67 (columns - 56)] := by
  have hNatural := naturalWidths_rulesTable severities
  by_cases hWide : 123 ≤ columns
  · have hRoom : Table.span (Run.rulesTable severities).naturalWidths ≤ columns := by
      rw [hNatural]
      exact hWide
    rw [Table.widths_of_fits hRoom, hNatural, Nat.min_eq_left (by omega)]
  · have hNarrow : ∀ k < 39,
        Table.narrow (79 + k) (Table.total ([12, 29, 10, 67].map (min (79 + k))))
          ([12, 29, 10, 67].map (min (79 + k))) = [12, 29, 10, min 67 (28 + k)] := by
      decide +kernel
    have hLess : columns - boxColumns < 39 := by
      simp only [boxColumns]
      omega
    have hRoom : columns - Table.bars 4 = 79 + (columns - boxColumns) := by
      simp only [boxColumns, Table.bars] at h ⊢
      omega
    have hRest : columns - 56 = 28 + (columns - boxColumns) := by
      simp only [boxColumns] at h ⊢
      omega
    rw [Table.widths, columnCount_rulesTable, hNatural, hRoom, hRest]
    exact hNarrow _ hLess

theorem leads_rulesTable (severities : Severities) (h : boxColumns ≤ columns) :
    (Run.rulesTable severities).Leads columns := by
  have hBars : Table.bars 4 ≤ columns := Nat.le_trans (by decide) h
  refine ⟨by rwa [columnCount_rulesTable], ?_⟩
  intro row hRow
  obtain ⟨rule, -, rfl⟩ := List.mem_map.mp hRow
  rw [widths_rulesTable severities h]
  exact ⟨Config.operationsKey, rfl, by decide, 12, rfl, by decide⟩

-- ---------------------------------------------------------------------------
-- What is found
-- ---------------------------------------------------------------------------

/-- What is found of the row of a rule has its key and its severity. -/
theorem cell_found {p : Presentation} (h : Legible p) (severities : Severities) (rule : Rule) :
    let row := p.found (Run.rulesTable severities) (rowOf severities rule)
    cell "Rule" row = some rule.key ∧ cell "Severity" row = some (severities.of rule).name := by
  have hWhole : ∀ text ∈ rowOf severities rule, ∀ width, text.length + Table.padding ≤ width →
      Table.trimEnd ((Table.pieces width text).getD 0 "").toList = text := by
    intro text hText width hRoom
    rw [(Table.pieces_of_room hRoom).1, (fits_row severities rule text hText).1.trimEnd_eq]
  unfold Presentation.found
  split
  · next hFormat =>
    rw [widths_rulesTable severities (h hFormat), rowOf]
    simp only [Table.lineOf_cons]
    rw [hWhole rule.key (by simp [rowOf]) 29 (width_key_le rule),
      hWhole (severities.of rule).name (by simp [rowOf]) 10 (width_name_le _)]
    exact ⟨rfl, rfl⟩
  · exact ⟨rfl, rfl⟩

theorem readRows_table {p : Presentation} (h : Legible p) (severities : Severities) :
    Table.readRows headers p.format (p.table (Run.rulesTable severities)) =
      some (Rule.all.map fun rule =>
        p.found (Run.rulesTable severities) (rowOf severities rule)) := by
  have hRead := p.readRows_table (readable_rulesTable severities)
    (fun hFormat => leads_rulesTable severities (h hFormat))
  rwa [rows_rulesTable, List.map_map] at hRead

/-- **What is read in a listing**, in any format: every rule with its severity, and no other. -/
theorem shows_iff {p : Presentation} (h : Legible p) {rule : Rule} {severity : Severity} :
    Shows p.format (p.table (Run.rulesTable severities)) rule severity ↔
      severities.of rule = severity := by
  rw [Shows, readRows_table h]
  constructor
  · rintro ⟨_, ⟨⟩, row, hRow, hKey, hName⟩
    obtain ⟨rule', -, rfl⟩ := List.mem_map.mp hRow
    obtain ⟨hKey', hName'⟩ := cell_found h severities rule'
    rw [hKey', Option.some.injEq] at hKey
    rw [hName', Option.some.injEq] at hName
    obtain rfl := Rule.key_injective hKey
    exact Severity.name_injective hName
  · rintro rfl
    exact ⟨_, rfl, _, List.mem_map_of_mem (Rule.mem_all rule), cell_found h severities rule⟩

/-- The rows stand in the order in which rules are applied, and those that do not say off are the
rules that are applied. -/
theorem rows_in_order {p : Presentation} (h : Legible p) (severities : Severities) :
    let rows := Rule.all.map fun rule => p.found (Run.rulesTable severities) (rowOf severities rule)
    rows.map (cell "Rule") = Rule.all.map (fun rule => some rule.key) ∧
      (rows.filter fun row => cell "Severity" row ≠ some Severity.off.name).map (cell "Rule") =
        severities.active.map (fun rule => some rule.key) := by
  have hKey : ∀ rules : List Rule, (rules.map fun rule =>
      p.found (Run.rulesTable severities) (rowOf severities rule)).map (cell "Rule") =
        rules.map fun rule => some rule.key := by
    intro rules
    rw [List.map_map]
    exact List.map_congr_left fun rule _ => (cell_found h severities rule).1
  have hActive : (Rule.all.filter fun rule =>
      cell "Severity" (p.found (Run.rulesTable severities) (rowOf severities rule)) ≠
        some Severity.off.name) = severities.active := by
    apply List.filter_congr
    intro rule _
    rw [(cell_found h severities rule).2]
    simp [Severity.name_injective.eq_iff]
  refine ⟨hKey Rule.all, ?_⟩
  rw [List.filter_map, ← hActive]
  exact hKey _

/-- **A narrower terminal hides a rule**, if it has room for the bars of the listing at all: the
longest key is broken, so that no row has it. -/
theorem not_shows_of_narrow (hBars : Table.bars 4 ≤ columns) (hNarrow : columns < boxColumns)
    (severities : Severities) (styling : Terminal.Styling) (severity : Severity) :
    ¬ Shows .rich ((Run.rulesTable severities).boxed styling columns) .writeConsumes severity := by
  have hLongest : Rule.writeConsumes.key.length + Table.padding = 29 := by decide +kernel
  have hWidths : ∀ room < 79, (Table.narrow room (Table.total ([12, 29, 10, 67].map (min room)))
      ([12, 29, 10, 67].map (min room))).getD 1 0 < 29 := by
    decide +kernel
  have hLess : columns - Table.bars 4 < 79 := by
    simp only [boxColumns, Table.bars] at hNarrow ⊢
    omega
  have hWidth : ((Run.rulesTable severities).widths columns).getD 1 0 < 29 := by
    rw [Table.widths, columnCount_rulesTable, naturalWidths_rulesTable]
    exact hWidths _ hLess
  have hLength := Table.length_widths (Run.rulesTable severities) columns
  rw [columnCount_rulesTable] at hLength
  rw [← columnCount_rulesTable severities] at hBars
  rintro ⟨rows, hRows, line, hLine, hKey, -⟩
  rw [← Option.some.inj hRows] at hLine
  have hLine := List.mem_of_mem_filter hLine
  rw [Table.readLines_boxed (readable_rulesTable severities).toBoxable hBars] at hLine
  obtain ⟨row, hRow, hLine⟩ := List.mem_flatMap.mp hLine
  obtain ⟨rule, -, rfl⟩ := List.mem_map.mp hRow
  obtain ⟨i, -, rfl⟩ := List.mem_map.mp hLine
  obtain ⟨first, width, third, fourth, hShape⟩ : ∃ first width third fourth,
      (Run.rulesTable severities).widths columns = [first, width, third, fourth] := by
    generalize (Run.rulesTable severities).widths columns = widths at hLength
    rcases widths with _ | ⟨first, _ | ⟨width, _ | ⟨third, _ | ⟨fourth, rest⟩⟩⟩⟩
    case cons.cons.cons.cons =>
      obtain rfl : rest = [] := List.length_eq_zero_iff.mp (by simpa using hLength)
      exact ⟨first, width, third, fourth, rfl⟩
    all_goals simp at hLength
  rw [hShape] at hKey hWidth
  have hPiece : Table.trimEnd ((Table.pieces width rule.key).getD i "").toList =
      Rule.writeConsumes.key := Option.some.inj hKey
  have hShort := Table.length_piece_le width rule.key i
  rw [hPiece] at hShort
  have hWidth : width < 29 := hWidth
  simp only [Table.padding] at hLongest hShort
  omega

end Listing

end ApiLint
