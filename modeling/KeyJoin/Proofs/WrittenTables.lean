import KeyJoin.Proofs.PrintedLines

/-!
# Written tables

A table is written with a line for each row and bars between its cells.  If the
rows are such as a scan can yield, the text is a table again whatever markers
are looked for: each line of it is a data line, so none is searched for a
failure marker, and its cells are those that were written.  The rows of a star
join are of this kind, being the cells of two scanned rows one after the other.
-/

namespace KeyJoin

variable {rows : List Row} {row : Row}

def Row.write (row : Row) : String :=
  String.intercalate " | " row.cells

def writeTable (rows : List Row) : String :=
  String.intercalate "\n" (rows.map Row.write)

/-! ## One row -/

theorem Row.toList_write (row : Row) :
    row.write.toList = writeCells (row.cells.map String.toList) :=
  toList_intercalate_bar row.cells

theorem Row.IsTabular.dataCells?_write (h : row.IsTabular) :
    dataCells? row.write.toList = some (row.cells.map String.toList) := by
  rw [row.toList_write, h.dataCells?_writeCells]

theorem Row.IsTabular.rowOfLine?_write (h : row.IsTabular) :
    rowOfLine? [] row.write.toList = some row := by
  have hcells : (row.cells.map String.toList).map String.ofList = row.cells := by
    simp [List.map_map, Function.comp_def]
  rw [rowOfLine?, h.dataCells?_write]
  simp only [holdsAny, List.any_nil, Bool.false_eq_true, if_false, Option.map_some, hcells]

theorem Row.IsTabular.isPlainLine_write (h : row.IsTabular) : IsPlainLine row.write.toList := by
  rw [row.toList_write]
  refine isPlainLine_writeCells fun part hpart => ?_
  obtain ⟨cell, hcell, rfl⟩ := List.mem_map.mp hpart
  exact h.cells cell hcell

theorem Row.IsTabular.bar_mem_write (h : row.IsTabular) : '|' ∈ row.write.toList :=
  bar_mem_intercalate h.two

/-! ## A whole table -/

theorem lines_writeTable (hne : rows ≠ []) (h : ∀ row ∈ rows, row.IsTabular) :
    lines (writeTable rows).toList = rows.map fun row => row.write.toList := by
  have htext : (writeTable rows).toList =
      ['\n'].intercalate (rows.map fun row => row.write.toList) := by
    rw [writeTable, String.toList_intercalate, List.map_map]
    rfl
  rw [htext]
  refine lines_intercalate_feed (by simpa using hne) ?_ ?_
  · intro line hline
    obtain ⟨row, hrow, rfl⟩ := List.mem_map.mp hline
    exact (h row hrow).isPlainLine_write
  · intro line hline
    obtain ⟨row, hrow, rfl⟩ := List.mem_map.mp hline
    exact List.ne_nil_of_mem (h row hrow).bar_mem_write

theorem parseRows_writeTable (hne : rows ≠ []) (h : ∀ row ∈ rows, row.IsTabular) :
    parseRows [] (writeTable rows) = rows := by
  have hread : ∀ row ∈ rows, rowOfLine? [] row.write.toList = some row :=
    fun row hrow => (h row hrow).rowOfLine?_write
  rw [parseRows, lines_writeTable hne h, List.filterMap_map]
  calc
    rows.filterMap (rowOfLine? [] ∘ fun row => row.write.toList) = rows.filterMap some :=
      List.filterMap_congr hread
    _ = rows := List.filterMap_some

theorem trim_writeTable_ne_nil (hne : rows ≠ []) (h : ∀ row ∈ rows, row.IsTabular) :
    trim (writeTable rows).toList ≠ [] := by
  obtain ⟨row, hrow⟩ := List.exists_mem_of_ne_nil rows hne
  have hbar : '|' ∈ (writeTable rows).toList :=
    mem_toList_intercalate (List.mem_map_of_mem hrow) (h row hrow).bar_mem_write
  exact trim_ne_nil_of_mem hbar (by decide)

/-- No line of the table is looked at for a failure marker. -/
theorem failureMarker?_writeTable (hne : rows ≠ []) (h : ∀ row ∈ rows, row.IsTabular)
    (failure : List String) : failureMarker? failure (writeTable rows) = none := by
  have hdata : ∀ line ∈ lines (writeTable rows).toList, (dataCells? line).isNone = false := by
    intro line hline
    rw [lines_writeTable hne h] at hline
    obtain ⟨row, hrow, rfl⟩ := List.mem_map.mp hline
    rw [(h row hrow).dataCells?_write]
    rfl
  have hnone : ((lines (writeTable rows).toList).filter fun line => (dataCells? line).isNone) =
      [] := by
    rw [List.filter_eq_nil_iff]
    exact fun line hline => by simp [hdata line hline]
  rw [failureMarker?, hnone]
  rfl

theorem checkScan_writeTable (hne : rows ≠ []) (h : ∀ row ∈ rows, row.IsTabular)
    (markers : LineMarkers) : checkScan markers (writeTable rows) = .ok () := by
  have hfilled : (trim (writeTable rows).toList).isEmpty = false := by
    simpa using trim_writeTable_ne_nil hne h
  simp only [checkScan, hfilled, failureMarker?_writeTable hne h, Bool.false_eq_true, if_false]

/-! ## Star joins -/

/-- The row that a star prints for a joined row. -/
def JoinedRow.wide (row : JoinedRow) : Row :=
  ⟨row.left.cells ++ row.right.cells⟩

theorem JoinedRow.isTabular_wide {row : JoinedRow} (hleft : row.left.IsTabular)
    (hright : row.right.IsTabular) : row.wide.IsTabular := by
  have htwo := hleft.two
  refine ⟨fun cell hcell => ?_, ?_, ?_⟩
  · rcases List.mem_append.mp hcell with hcell | hcell
    · exact hleft.cells cell hcell
    · exact hright.cells cell hcell
  · rw [JoinedRow.wide, List.length_append]
    omega
  · have hne : row.left.cells ≠ [] := by
      rw [← List.length_pos_iff]
      omega
    rw [JoinedRow.wide, List.head?_append_of_ne_nil _ hne]
    exact hleft.key

theorem isTabular_of_mem_map_wide {left right : List Row}
    (hleft : ∀ row ∈ left, row.IsTabular) (hright : ∀ row ∈ right, row.IsTabular)
    (hrow : row ∈ (joinRows left right).map JoinedRow.wide) : row.IsTabular := by
  obtain ⟨joined, hjoined, rfl⟩ := List.mem_map.mp hrow
  rw [joinRows_eq_map_matchingPairs] at hjoined
  obtain ⟨pair, hpair, rfl⟩ := List.mem_map.mp hjoined
  obtain ⟨ha, hb, -, -⟩ := of_mem_matchingPairs hpair
  exact JoinedRow.isTabular_wide (hleft _ ha) (hright _ hb)

theorem render_outputIn_all {left right : List Row} (hcount : matchCount left right ≠ 0)
    (noRowsIndicator : String) :
    (Projection.all.outputIn left right).render noRowsIndicator =
      writeTable ((joinRows left right).map JoinedRow.wide) := by
  rw [Projection.all.outputIn_of_matchCount_ne_zero hcount,
    Projection.all.linesIn_eq_map_joinRows, writeTable, List.map_map]
  rfl

/-- The text of a star join that matches rows is a table itself: every scan accepts it, and its rows
are the joined rows in order, each with its left and then its right cells. -/
theorem parseRows_render_of_all (settings : Settings) (scanner : Scanner) (statement : String)
    (query : JoinQuery) (outcome : Outcome)
    (hquery : recognizeJoin? settings.columns statement = some query)
    (hall : query.projection = .all)
    (h : (simulate settings scanner statement).result = .ok outcome)
    (hmatched : 0 < outcome.matchedRows) (noRowsIndicator : String) :
    let text := outcome.output.render noRowsIndicator
    (∀ markers, checkScan markers text = .ok ()) ∧
    ∃ leftText rightText,
      scanner [] query.leftRelation = .ok leftText ∧
      scanner [query.leftRelation] query.rightRelation = .ok rightText ∧
      parseRows [] text =
        ((joinRows (parseRows settings.markers.discard leftText)
          (parseRows settings.markers.discard rightText)).map fun row =>
            ⟨row.left.cells ++ row.right.cells⟩) ∧
      (parseRows [] text).length = outcome.matchedRows := by
  intro text
  obtain ⟨query', left, right, hquery', -, hleft, hright, hanswer⟩ := exists_answer_of_simulate h
  rw [hquery] at hquery'
  cases hquery'
  -- with rows that match, the render does not depend on the indicator
  have hcount : matchCount left right ≠ 0 := by
    rw [hanswer] at hmatched
    exact Nat.ne_of_gt hmatched
  have htext : text = writeTable ((joinRows left right).map JoinedRow.wide) := by
    rw [← render_outputIn_all hcount noRowsIndicator, ← hall]
    simp only [text, hanswer, JoinQuery.answer]
  have hlength : (joinRows left right).length = matchCount left right := by
    rw [joinRows_eq_map_matchingPairs, List.length_map, length_matchingPairs]
  have hne : (joinRows left right).map JoinedRow.wide ≠ [] := by
    rw [← List.length_pos_iff, List.length_map, hlength]
    omega
  have htabular : ∀ row ∈ (joinRows left right).map JoinedRow.wide, row.IsTabular :=
    fun row hrow => isTabular_of_mem_map_wide hleft.isTabular hright.isTabular hrow
  have hrows : parseRows [] text = (joinRows left right).map JoinedRow.wide := by
    rw [htext, parseRows_writeTable hne htabular]
  constructor
  · intro markers
    rw [htext]
    exact checkScan_writeTable hne htabular markers
  · cases hleft with
    | table leftAnswer leftAccepted =>
        cases hright with
        | table rightAnswer rightAccepted =>
            refine ⟨_, _, leftAnswer, rightAnswer, hrows, ?_⟩
            rw [hrows, List.length_map, hlength, hanswer]
            rfl

/-- Failure markers, a carriage return and a negative key stand in the cells, and the last cell of
each row is empty. -/
theorem parseRows_render_of_all_of_marked_cells :
    let scanner := Tables.scanner [("a", "-7 | FAILURE\r|\n"), ("b", "-7 | x\ry |\n-7||")]
    let statement := "SELECT * FROM a INNER JOIN b ON a.id = b.id"
    let text := "-7 | FAILURE |  | -7 | x\ry | \n-7 | FAILURE |  | -7 |  | "
    ∃ outcome, (simulate {} scanner statement).result = .ok outcome ∧
      outcome.matchedRows = 2 ∧ outcome.output.render "NO_ROWS" = text ∧
      checkScan { failure := ["", "FAILURE"] } text = .ok () ∧
      (parseRows [] text).length = 2 := by
  intro scanner statement text
  have hquery : recognizeJoin? {} statement =
      some
        { projection := .all
          fieldsText := "*"
          leftRelation := "a"
          rightRelation := "b"
          conditionText := "a.id = b.id"
          keyCondition? := some ⟨⟨some "a", "id"⟩, ⟨some "b", "id"⟩⟩ } := by
    decide +kernel
  have hresult : (simulate {} scanner statement).result =
      .ok ⟨"a", "b", "a.id = b.id", "*", 1, 2, 2,
        .rows ["-7 | FAILURE |  | -7 | x\ry | ", "-7 | FAILURE |  | -7 |  | "]⟩ := by
    decide +kernel
  have hrender : (Output.rows ["-7 | FAILURE |  | -7 | x\ry | ",
      "-7 | FAILURE |  | -7 |  | "]).render "NO_ROWS" = text := by
    decide +kernel
  have hrescan := parseRows_render_of_all {} scanner statement _ _ hquery rfl hresult (by decide)
    "NO_ROWS"
  simp only [hrender] at hrescan
  obtain ⟨haccepted, -, -, -, -, -, hlength⟩ := hrescan
  exact ⟨_, hresult, rfl, hrender, haccepted _, hlength⟩

end KeyJoin
