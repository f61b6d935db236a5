import KeyJoin.Proofs.PrintedLines
import KeyJoin.Proofs.SelectListItems
import KeyJoin.Proofs.StatementText

/-!
# The indicator of an empty join

Valid settings keep the bar out of the text that stands for an empty join, and
bars stand between the cells of a printed row.  So rows of two cells or more are
never taken for an empty join.  A projection on a single field prints cells
without a bar: its rows are taken for an empty join exactly when their cells,
one below the other, spell the indicator.
-/

namespace KeyJoin

variable {settings : Settings} {scanner : Scanner} {columns : ColumnNames} {statement : String}
  {query : JoinQuery} {left right : List Row} {pair : Nat × Nat}

/-! ## Rows of a join -/

theorem two_le_length_cellsIn (h : recognizeJoin? columns statement = some query)
    (hvalid : query.projection.IsValid) (hsingle : ∀ field, query.projection ≠ .single field)
    (hpair : pair ∈ matchingPairs left right) :
    2 ≤ (query.projection.cellsIn left[pair.1]! right[pair.2]!).length := by
  cases hprojection : query.projection with
  | all =>
      obtain ⟨-, -, hleft, hright⟩ := of_mem_matchingPairs hpair
      have hleftLength := List.length_pos_iff.mpr hleft
      have hrightLength := List.length_pos_iff.mpr hright
      simp only [Projection.cellsIn, List.length_append]
      omega
  | single field => exact absurd hprojection (hsingle field)
  | several fields =>
      obtain ⟨index, leftWord, rightWord, parts, ending, -, rfl⟩ := exists_read_of_recognizeJoin? h
      simpa [Projection.cellsIn] using JoinScope.two_le_length_of_several hprojection
  | invalid field fault suggestion => exact absurd hprojection (hvalid field fault suggestion)

/-! ## Printed lines -/

theorem bar_not_mem_of_validate (h : settings.validate = .ok ()) :
    '|' ∉ settings.noRowsIndicator.toList := by
  unfold Settings.validate at h
  split at h
  · cases h
  · split at h
    · cases h
    · rename_i hbar
      simpa using hbar

theorem intercalate_feed_eq_iff {lines : List String} {text : String} (hne : lines ≠ [])
    (hfeed : ∀ line ∈ lines, '\n' ∉ line.toList) :
    String.intercalate "\n" lines = text ↔
      lines.map String.toList = text.toList.splitOn '\n' := by
  rw [← String.toList_inj, String.toList_intercalate]
  constructor
  · intro h
    rw [← h]
    refine (List.splitOn_intercalate '\n' ?_ (by simpa using hne)).symm
    simpa using hfeed
  · intro h
    rw [h]
    exact List.intercalate_splitOn '\n'

theorem bar_mem_lineAt (h : recognizeJoin? columns statement = some query)
    (hvalid : query.projection.IsValid) (hsingle : ∀ field, query.projection ≠ .single field)
    (hpair : pair ∈ matchingPairs left right) :
    '|' ∈ (query.projection.lineAt left right pair).toList :=
  bar_mem_intercalate (two_le_length_cellsIn h hvalid hsingle hpair)

/-- The lines of a single field are its cells, which hold no line feeds: the text falls into them
again. -/
theorem intercalate_lineAt_single_eq_iff {earlier earlier' : List String} {name name' : String}
    (hleft : ScanYields settings scanner earlier name left)
    (hright : ScanYields settings scanner earlier' name' right)
    (hpairs : matchingPairs left right ≠ []) (field : ResolvedField) (text : String) :
    String.intercalate "\n" ((Projection.single field).linesIn left right) = text ↔
      ((Projection.single field).linesIn left right).map String.toList =
        text.toList.splitOn '\n' := by
  refine intercalate_feed_eq_iff (by simpa [Projection.linesIn] using hpairs) fun line hline => ?_
  exact (isPlainLine_of_mem_linesIn hleft.isTabular hright.isTabular (.single field) hline).noFeed

/-- Any other line has a bar between its cells, which no valid indicator has. -/
theorem intercalate_lineAt_ne (hsettings : settings.validate = .ok ())
    (hquery : recognizeJoin? columns statement = some query)
    (hvalid : query.projection.IsValid) (hsingle : ∀ field, query.projection ≠ .single field)
    (hpairs : matchingPairs left right ≠ []) :
    String.intercalate "\n" (query.projection.linesIn left right) ≠
      settings.noRowsIndicator := by
  intro hequal
  obtain ⟨pair, hpair⟩ := List.exists_mem_of_ne_nil _ hpairs
  have hline : query.projection.lineAt left right pair ∈ query.projection.linesIn left right :=
    List.mem_map_of_mem hpair
  have hbar : '|' ∈ (String.intercalate "\n" (query.projection.linesIn left right)).toList :=
    mem_toList_intercalate hline (bar_mem_lineAt hquery hvalid hsingle hpair)
  rw [hequal] at hbar
  exact bar_not_mem_of_validate hsettings hbar

/-- What is printed for a join that is simulated under valid settings equals the indicator when no
rows match, and otherwise only if a single field was asked for and its cells are the lines of the
indicator. -/
theorem render_eq_noRowsIndicator_iff (settings : Settings) (scanner : Scanner)
    (statement : String) (outcome : Outcome) (hvalid : settings.validate = .ok ())
    (h : (simulate settings scanner statement).result = .ok outcome) :
    outcome.output.render settings.noRowsIndicator = settings.noRowsIndicator ↔
      outcome.matchedRows = 0 ∨
      ∃ query field, recognizeJoin? settings.columns statement = some query ∧
        query.projection = .single field ∧
        outcome.output.lines.map String.toList = settings.noRowsIndicator.toList.splitOn '\n' := by
  obtain ⟨query, left, right, hquery, hprojection, hleft, hright, rfl⟩ :=
    exists_answer_of_simulate h
  dsimp only [JoinQuery.answer]
  by_cases hcount : matchCount left right = 0
  · simp [hcount, Projection.outputIn, Output.render]
  · have hpairs : matchingPairs left right ≠ [] := by
      rw [← List.length_pos_iff, length_matchingPairs]
      omega
    simp only [query.projection.outputIn_of_matchCount_ne_zero hcount, hcount, false_or,
      Output.render, Output.lines]
    by_cases hsingle : ∃ field, query.projection = .single field
    · obtain ⟨field, hfield⟩ := hsingle
      rw [hfield, intercalate_lineAt_single_eq_iff hleft hright hpairs]
      constructor
      · exact fun hcells => ⟨query, field, hquery, hfield, hcells⟩
      · rintro ⟨-, -, -, -, hcells⟩
        exact hcells
    · have hnotSingle : ∀ field, query.projection ≠ .single field := not_exists.mp hsingle
      constructor
      · intro hequal
        exact absurd hequal (intercalate_lineAt_ne hvalid hquery hprojection hnotSingle hpairs)
      · rintro ⟨query', field, hquery', hfield, -⟩
        rw [hquery] at hquery'
        cases hquery'
        exact absurd hfield (hnotSingle field)

/-- Two rows match, and their two cells are the two lines of the indicator. -/
theorem render_eq_noRowsIndicator_iff_of_two_lines :
    let settings : Settings := { noRowsIndicator := "x\ny" }
    let scanner := Tables.scanner [("a", "1 | x\n2 | y\n"), ("b", "1 | 5\n2 | 6\n")]
    let statement := "SELECT a.name FROM a INNER JOIN b ON a.id = b.id"
    settings.validate = .ok () ∧
      ∃ outcome, (simulate settings scanner statement).result = .ok outcome ∧
        outcome.matchedRows = 2 ∧ outcome.output.render "x\ny" = "x\ny" := by
  intro settings scanner statement
  have hvalid : settings.validate = .ok () := by decide +kernel
  have hquery : recognizeJoin? settings.columns statement =
      some
        { projection := .single ⟨"a", "name", .left, 1⟩
          fieldsText := "a.name"
          leftRelation := "a"
          rightRelation := "b"
          conditionText := "a.id = b.id"
          keyCondition? := some ⟨⟨some "a", "id"⟩, ⟨some "b", "id"⟩⟩ } := by
    decide +kernel
  have hresult : (simulate settings scanner statement).result =
      .ok ⟨"a", "b", "a.id = b.id", "a.name", 2, 2, 2, .rows ["x", "y"]⟩ := by
    decide +kernel
  have hlines : ["x", "y"].map String.toList = settings.noRowsIndicator.toList.splitOn '\n' := by
    decide +kernel
  exact ⟨hvalid, _, hresult, rfl,
    (render_eq_noRowsIndicator_iff settings scanner statement _ hvalid hresult).mpr
      (.inr ⟨_, _, hquery, rfl, hlines⟩)⟩

/-- Under the usual settings a row that matches prints the indicator if its one cell holds it, so
the text does not always tell an empty join from rows. -/
theorem noRowsIndicator_does_not_tell :
    ¬ ∀ (settings : Settings) (scanner : Scanner) (statement : String) (outcome : Outcome),
      settings.validate = .ok () →
      (simulate settings scanner statement).result = .ok outcome →
      (outcome.output.render settings.noRowsIndicator = settings.noRowsIndicator ↔
        outcome.matchedRows = 0) := by
  intro htells
  let scanner := Tables.scanner [("a", "1 | NO_ROWS\n"), ("b", "1 | 5\n")]
  let statement := "SELECT a.name FROM a INNER JOIN b ON a.id = b.id"
  have hresult : (simulate {} scanner statement).result =
      .ok ⟨"a", "b", "a.id = b.id", "a.name", 1, 1, 1, .rows ["NO_ROWS"]⟩ := by
    decide +kernel
  have hzero := (htells {} scanner statement _ (by decide +kernel) hresult).mp (by decide +kernel)
  cases hzero

end KeyJoin
