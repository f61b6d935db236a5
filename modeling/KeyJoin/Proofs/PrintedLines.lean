import KeyJoin.Proofs.StatementRoutes
import KeyJoin.Proofs.TableCells

/-!
# Printed lines of a join

A join prints one line for each pair of rows that match, whatever its
projection keeps of them.  The cells of scanned rows hold no line feed and end
in no white space, and a row too short for a field gives an empty cell.  So no
printed line holds a line feed or ends in a carriage return, and cutting the
printed text into lines gives them all back, the empty ones included.
-/

namespace KeyJoin

variable {settings : Settings} {scanner : Scanner} {left right : List Row} {pair : Nat × Nat}

/-! ## Rows of a join -/

theorem ScanYields.isTabular {earlier : List String} {name : String} {rows : List Row}
    (h : ScanYields settings scanner earlier name rows) : ∀ row ∈ rows, row.IsTabular := by
  cases h with
  | table answer accepted => exact fun row hrow => isTabular_of_mem_parseRows hrow

theorem Row.cells_ne_nil_of_key? {row : Row} (h : row.key?.isSome = true) : row.cells ≠ [] := by
  intro hnil
  rw [Row.key?, hnil] at h
  cases h

theorem of_mem_matchingPairs (h : pair ∈ matchingPairs left right) :
    left[pair.1]! ∈ left ∧ right[pair.2]! ∈ right ∧
      left[pair.1]!.cells ≠ [] ∧ right[pair.2]!.cells ≠ [] := by
  obtain ⟨i, j⟩ := pair
  obtain ⟨hrange, hagree⟩ := List.mem_filter.mp h
  obtain ⟨hi, hj⟩ : i < left.length ∧ j < right.length := by simpa using hrange
  obtain ⟨hkey, hsame⟩ := (keysAgree_iff_of_lt hi hj).mp (of_decide_eq_true hagree)
  have hleft : left[i]! ∈ left := by simp [hi]
  have hright : right[j]! ∈ right := by simp [hj]
  exact ⟨hleft, hright, Row.cells_ne_nil_of_key? hkey, Row.cells_ne_nil_of_key? (hsame ▸ hkey)⟩

theorem ResolvedField.cellIn_eq_or_mem (field : ResolvedField) (a b : Row) :
    field.cellIn a b = "" ∨ field.cellIn a b ∈ a.cells ++ b.cells := by
  have hrow (row : Row) : row.cells[field.position]?.getD "" = "" ∨
      row.cells[field.position]?.getD "" ∈ row.cells := by
    cases hcell : row.cells[field.position]? with
    | none => exact .inl rfl
    | some cell => exact .inr (List.mem_of_getElem? hcell)
  unfold ResolvedField.cellIn
  cases field.side with
  | left => exact (hrow a).imp_right (List.mem_append_left b.cells)
  | right => exact (hrow b).imp_right (List.mem_append_right a.cells)

theorem ResolvedField.isCell_cellIn (field : ResolvedField) {a b : Row} (ha : a.IsTabular)
    (hb : b.IsTabular) : IsCell (field.cellIn a b).toList := by
  rcases field.cellIn_eq_or_mem a b with hempty | hmem
  · rw [hempty]
    exact isCell_nil
  · rcases List.mem_append.mp hmem with hmem | hmem
    · exact ha.cells _ hmem
    · exact hb.cells _ hmem

theorem Projection.isCell_of_mem_cellsIn (projection : Projection) {a b : Row}
    (ha : a.IsTabular) (hb : b.IsTabular) {cell : String} (hcell : cell ∈ projection.cellsIn a b) :
    IsCell cell.toList := by
  cases projection with
  | all =>
      rcases List.mem_append.mp hcell with hcell | hcell
      · exact ha.cells cell hcell
      · exact hb.cells cell hcell
  | single field =>
      rw [Projection.cellsIn, List.mem_singleton] at hcell
      rw [hcell]
      exact field.isCell_cellIn ha hb
  | several fields =>
      obtain ⟨field, -, rfl⟩ := List.mem_map.mp hcell
      exact field.isCell_cellIn ha hb
  | invalid field fault suggestion => cases hcell

/-! ## Lines -/

/-- The line that a projection prints for the rows at a pair of positions. -/
def Projection.lineAt (projection : Projection) (left right : List Row) (pair : Nat × Nat) :
    String :=
  String.intercalate " | " (projection.cellsIn left[pair.1]! right[pair.2]!)

def Projection.linesIn (projection : Projection) (left right : List Row) : List String :=
  (matchingPairs left right).map (projection.lineAt left right)

theorem Projection.outputIn_of_matchCount_ne_zero (projection : Projection)
    (hcount : matchCount left right ≠ 0) :
    projection.outputIn left right = .rows (projection.linesIn left right) := by
  rw [Projection.outputIn, if_neg hcount]
  rfl

theorem Projection.length_linesIn (projection : Projection) (left right : List Row) :
    (projection.linesIn left right).length = matchCount left right := by
  rw [Projection.linesIn, List.length_map, length_matchingPairs]

theorem Projection.linesIn_eq_map_joinRows (projection : Projection) (left right : List Row) :
    projection.linesIn left right =
      (joinRows left right).map fun row =>
        String.intercalate " | " (projection.cellsIn row.left row.right) := by
  rw [joinRows_eq_map_matchingPairs, List.map_map]
  rfl

theorem isPlainLine_of_mem_linesIn (hleft : ∀ row ∈ left, row.IsTabular)
    (hright : ∀ row ∈ right, row.IsTabular) (projection : Projection) {line : String}
    (hline : line ∈ projection.linesIn left right) : IsPlainLine line.toList := by
  obtain ⟨pair, hpair, rfl⟩ := List.mem_map.mp hline
  obtain ⟨ha, hb, -, -⟩ := of_mem_matchingPairs hpair
  rw [Projection.lineAt, toList_intercalate_bar]
  refine isPlainLine_writeCells fun part hpart => ?_
  obtain ⟨cell, hcell, rfl⟩ := List.mem_map.mp hpart
  exact projection.isCell_of_mem_cellsIn (hleft _ ha) (hright _ hb) hcell

theorem toList_render_rows (noRowsIndicator : String) (printed : List String) :
    ((Output.rows printed).render noRowsIndicator).toList =
      ['\n'].intercalate (printed.map String.toList) := by
  rw [Output.render, String.toList_intercalate]
  rfl

/-- Lines that each stand on a line of their own are found again in the text printed for them. -/
theorem lines_render_append_feed (noRowsIndicator : String) {printed : List String}
    (hne : printed ≠ []) (hplain : ∀ line ∈ printed, IsPlainLine line.toList) :
    lines ((Output.rows printed).render noRowsIndicator ++ "\n").toList =
      printed.map String.toList := by
  have htext : ((Output.rows printed).render noRowsIndicator ++ "\n").toList =
      endLines (printed.map String.toList) := by
    rw [String.toList_append, toList_render_rows]
    exact intercalate_feed_append_feed (by simpa using hne)
  rw [htext]
  refine lines_endLines fun part hpart => ?_
  obtain ⟨line, hline, rfl⟩ := List.mem_map.mp hpart
  exact hplain line hline

/-! ## Answers that are printed -/

theorem routeStatement_of_answered {options : RouteOptions} {stamp : RunStamp} {engine : Engine}
    {statement : String} {outcome : Outcome} (hrunning : options.commaJoinOnly = false)
    (h : (simulate settings (engineScanner settings.engine engine)
      (trimText statement)).result = .ok outcome) :
    (routeStatement settings options stamp engine statement).out =
      outcomeText settings options stamp outcome := by
  obtain ⟨query, left, right, hquery, -⟩ := exists_answer_of_simulate h
  rw [routeStatement_of_running (ne_empty_of_recognizeJoin? hquery) hrunning]
  simp only [runStatement, h]

/-- A join that matches rows prints one line for each pair of them, in order, and the printed text
falls into these lines again. -/
theorem printed_lines_of_matched (settings : Settings) (scanner : Scanner) (statement : String)
    (outcome : Outcome) (h : (simulate settings scanner statement).result = .ok outcome)
    (hmatched : 0 < outcome.matchedRows) :
    ∃ printed : List String,
      outcome.output = .rows printed ∧ printed.length = outcome.matchedRows ∧
      (∃ query left right,
        recognizeJoin? settings.columns statement = some query ∧
        ScanYields settings scanner [] query.leftRelation left ∧
        ScanYields settings scanner [query.leftRelation] query.rightRelation right ∧
        printed = (joinRows left right).map fun row =>
          String.intercalate " | " (query.projection.cellsIn row.left row.right)) ∧
      (∀ line ∈ printed, '\n' ∉ line.toList) ∧
      lines (outcome.output.render settings.noRowsIndicator ++ "\n").toList =
        printed.map String.toList ∧
      ∀ options stamp engine written, scanner = engineScanner settings.engine engine →
        trimText written = statement → options.json = false → options.commaJoinOnly = false →
        (routeStatement settings options stamp engine written).out =
          outcome.output.render settings.noRowsIndicator ++ "\n" := by
  obtain ⟨query, left, right, hquery, -, hleft, hright, hanswer⟩ := exists_answer_of_simulate h
  have hcount : matchCount left right ≠ 0 := by
    rw [hanswer] at hmatched
    exact Nat.ne_of_gt hmatched
  have houtput : outcome.output = .rows (query.projection.linesIn left right) := by
    rw [hanswer]
    exact query.projection.outputIn_of_matchCount_ne_zero hcount
  have hlength := query.projection.length_linesIn left right
  have hplain : ∀ line ∈ query.projection.linesIn left right, IsPlainLine line.toList :=
    fun line hline => isPlainLine_of_mem_linesIn hleft.isTabular hright.isTabular _ hline
  refine ⟨query.projection.linesIn left right, houtput, ?_, ?_, ?_, ?_, ?_⟩
  · rw [hlength, hanswer]
    rfl
  · exact ⟨query, left, right, hquery, hleft, hright,
      query.projection.linesIn_eq_map_joinRows left right⟩
  · exact fun line hline => (hplain line hline).noFeed
  · have hne : query.projection.linesIn left right ≠ [] := by
      rw [← List.length_pos_iff, hlength]
      omega
    rw [houtput]
    exact lines_render_append_feed settings.noRowsIndicator hne hplain
  · -- the route trims what was written, and then runs this statement
    rintro options stamp engine written rfl rfl hjson hrunning
    rw [routeStatement_of_answered hrunning h, outcomeText, hjson]
    rfl

/-- Two rows are too short for the field or have nothing there, and a carriage return stands inside
the value of the third one. -/
theorem printed_lines_of_matched_of_empty_cells :
    let settings : Settings := { columns := ⟨["id", "name", "city"], ["id"]⟩ }
    let engine : Engine := fun earlier _ =>
      .ok ⟨if earlier.isEmpty then "1 | n\r\n1 | n | \n1|n|R\rome\r\n" else "1|2", "", some 0⟩
    let statement := "SELECT city FROM a INNER JOIN b ON a.id = b.id"
    ∃ outcome,
      (simulate settings (engineScanner settings.engine engine) statement).result = .ok outcome ∧
      outcome.matchedRows = 3 ∧ outcome.output = .rows ["", "", "R\rome"] ∧
      (routeStatement settings {} ⟨"", 0⟩ engine (statement ++ "\n")).out = "\n\nR\rome\n" ∧
      lines "\n\nR\rome\n".toList = ["", "", "R\rome"].map String.toList := by
  intro settings engine statement
  have hresult : (simulate settings (engineScanner settings.engine engine) statement).result =
      .ok ⟨"a", "b", "a.id = b.id", "a.city", 3, 1, 3, .rows ["", "", "R\rome"]⟩ := by
    decide +kernel
  obtain ⟨printed, hprinted, -, -, -, hlines, hrouted⟩ :=
    printed_lines_of_matched settings _ statement _ hresult (by decide)
  cases hprinted
  have htext : (Output.rows ["", "", "R\rome"]).render settings.noRowsIndicator ++ "\n" =
      "\n\nR\rome\n" := by
    decide +kernel
  rw [htext] at hlines
  refine ⟨_, hresult, rfl, rfl, ?_, hlines⟩
  rw [hrouted {} ⟨"", 0⟩ engine (statement ++ "\n") rfl (by decide +kernel) rfl rfl, htext]

end KeyJoin
