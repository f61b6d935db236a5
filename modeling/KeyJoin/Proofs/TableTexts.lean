import KeyJoin.Proofs.DataLines

/-!
# Texts of tables

A text writes some rows when each of them stands on a line of its own, in their
order, and every other line is no data line.  A line is ended by a line feed
with or without a carriage return before it, and the last line may go without
an end.  Without discard markers a text is read as the rows that it writes, and
there is no other list of rows that it writes.  With discard markers the lines
that hold one of them are left out.
-/

namespace KeyJoin

variable {line text ending : List Char} {row? : Option Row} {rows : List Row}

inductive IsLineEnd : List Char → Prop
  | feed : IsLineEnd ['\n']
  | returnFeed : IsLineEnd ['\r', '\n']

/-- The line writes a row, or is no data line and writes none. -/
inductive WritesLine : Option Row → List Char → Prop
  | row {row : Row} {line : List Char} (hrow : row.IsTabular)
      (hcells : WritesCells (row.cells.map String.toList) line) : WritesLine (some row) line
  | other {line : List Char} (hother : ¬ HasDataForm line) : WritesLine none line

/-- The lines of the text write these rows one after the other. -/
inductive WritesTable : List Row → List Char → Prop
  | last {row? : Option Row} {line : List Char} (hfeed : '\n' ∉ line)
      (hline : WritesLine row? line) : WritesTable row?.toList line
  | line {row? : Option Row} {rows : List Row} {line ending text : List Char}
      (hfeed : '\n' ∉ line) (hline : WritesLine row? line) (hending : IsLineEnd ending)
      (rest : WritesTable rows text) : WritesTable (row?.toList ++ rows) (line ++ (ending ++ text))

/-- The line is read as this row: its cells are what stands between the bars. -/
structure Row.ReadFrom (row : Row) (line : List Char) : Prop where
  written : WritesCells (row.cells.map String.toList) line
  cellCount : row.cells.length = line.count '|' + 1
  cells : ∀ cell ∈ row.cells, IsCell cell.toList

/-! ## One line -/

theorem rowOfLine?_eq_iff (hfeed : '\n' ∉ line) :
    rowOfLine? [] line = row? ↔ WritesLine row? line := by
  have hform : (rowOfLine? [] line).isSome = true ↔ HasDataForm line := by
    rw [rowOfLine?_isSome_iff]
    simp
  constructor
  · rintro rfl
    cases hrow : rowOfLine? [] line with
    | none =>
        rw [hrow] at hform
        exact .other fun hdata => by simpa using hform.mpr hdata
    | some row => exact .row (isTabular_of_rowOfLine? hfeed hrow) (writesCells_of_rowOfLine? hrow)
  · intro h
    cases h with
    | row hrow hcells => exact hcells.rowOfLine?_eq hrow
    | other hother =>
        rw [← Option.not_isSome_iff_eq_none, hform]
        exact hother

theorem dataCells?_append_blank {gap : List Char} (hgap : IsBlankText gap) (line : List Char) :
    dataCells? (line ++ gap) = dataCells? line := by
  ext cells
  rw [dataCells?_eq_some_iff, dataCells?_eq_some_iff, barCells_append_blank hgap]

theorem rowOfLine?_append_blank {gap : List Char} (hgap : IsBlankText gap) (line : List Char) :
    rowOfLine? [] (line ++ gap) = rowOfLine? [] line := by
  rw [rowOfLine?, rowOfLine?, dataCells?_append_blank hgap]
  rfl

theorem readFrom_of_rowOfLine? {discard : List String} {row : Row} (hfeed : '\n' ∉ line)
    (h : rowOfLine? discard line = some row) : row.ReadFrom line := by
  have hrow := isTabular_of_rowOfLine? hfeed h
  have hwritten := writesCells_of_rowOfLine? h
  refine ⟨hwritten, ?_, hrow.cells⟩
  have hcells := hwritten.barCells_eq fun part hpart => by
    obtain ⟨cell, hcell, rfl⟩ := List.mem_map.mp hpart
    exact ⟨(hrow.cells cell hcell).unpadded, (hrow.cells cell hcell).noBar⟩
  rw [← length_barCells, hcells, List.length_map]

/-! ## Lines of a text -/

/-- The line that is cut off may lack a carriage return at its end. -/
theorem exists_lines_append (hfeed : '\n' ∉ line) (hending : IsLineEnd ending)
    (text : List Char) :
    ∃ shown gap, line = shown ++ gap ∧ IsBlankText gap ∧
      lines (line ++ (ending ++ text)) = shown :: lines text := by
  cases hending with
  | returnFeed =>
      exact ⟨line, [], by simp, isBlankText_nil, lines_append_returnFeed hfeed text⟩
  | feed =>
      by_cases hreturn : line.getLast? = some '\r'
      · obtain ⟨shown, rfl⟩ := List.getLast?_eq_some_iff.mp hreturn
        have hblank : IsBlankText ['\r'] := by
          simp only [IsBlankText, List.mem_singleton, forall_eq]
          decide
        have hshown : '\n' ∉ shown := fun hmem => hfeed (List.mem_append_left _ hmem)
        refine ⟨shown, ['\r'], rfl, hblank, ?_⟩
        rw [List.append_assoc]
        exact lines_append_returnFeed hshown text
      · exact ⟨line, [], by simp, isBlankText_nil, lines_append_feed ⟨hfeed, hreturn⟩ text⟩

theorem filterMap_lines_append (hfeed : '\n' ∉ line) (hending : IsLineEnd ending)
    (text : List Char) :
    (lines (line ++ (ending ++ text))).filterMap (rowOfLine? []) =
      (rowOfLine? [] line).toList ++ (lines text).filterMap (rowOfLine? []) := by
  obtain ⟨shown, gap, rfl, hgap, hlines⟩ := exists_lines_append hfeed hending text
  rw [hlines, rowOfLine?_append_blank hgap, List.filterMap_cons]
  cases rowOfLine? [] shown <;> rfl

theorem filterMap_lines_of_feed_not_mem (hfeed : '\n' ∉ line) :
    (lines line).filterMap (rowOfLine? []) = (rowOfLine? [] line).toList := by
  by_cases hne : line = []
  · rw [hne]
    rfl
  · rw [lines_of_feed_not_mem hfeed hne, List.filterMap_cons]
    cases rowOfLine? [] line <;> rfl

theorem WritesTable.filterMap_eq (h : WritesTable rows text) :
    (lines text).filterMap (rowOfLine? []) = rows := by
  induction h with
  | last hfeed hline =>
      rw [filterMap_lines_of_feed_not_mem hfeed, (rowOfLine?_eq_iff hfeed).mpr hline]
  | line hfeed hline hending rest ih =>
      rw [filterMap_lines_append hfeed hending, (rowOfLine?_eq_iff hfeed).mpr hline, ih]

/-- A text is cut at its line feeds; a carriage return before one of them is padding. -/
theorem writesTable_filterMap (text : List Char) :
    WritesTable ((lines text).filterMap (rowOfLine? [])) text := by
  induction text using cut_induction (p := (· == '\n')) with
  | plain text hplain =>
      have hfeed : '\n' ∉ text := fun hmem => by simpa using hplain '\n' hmem
      rw [filterMap_lines_of_feed_not_mem hfeed]
      exact .last hfeed ((rowOfLine?_eq_iff hfeed).mp rfl)
  | cut line c rest hline hc ih =>
      obtain rfl : c = '\n' := by simpa using hc
      have hfeed : '\n' ∉ line := fun hmem => by simpa using hline '\n' hmem
      have hrows := filterMap_lines_append hfeed .feed rest
      rw [List.singleton_append] at hrows
      rw [hrows]
      exact .line hfeed ((rowOfLine?_eq_iff hfeed).mp rfl) .feed ih

theorem parseRows_eq_iff {text : String} :
    parseRows [] text = rows ↔ WritesTable rows text.toList := by
  constructor
  · rintro rfl
    exact writesTable_filterMap text.toList
  · exact WritesTable.filterMap_eq

/-- Padding of white space beyond the usual, carriage returns in a cell and before a line feed,
empty cells at the end, and lines that nearly hold a row. -/
example :
    WritesTable [⟨["-7", "x\ry", "", ""]⟩, ⟨["007", ""]⟩]
      "id | name\r\n\u3000-7\t|x\ry|| \r\r\n--1 | a\n1.5 | b\n 007 |".toList :=
  parseRows_eq_iff.mp (by decide +kernel)

theorem forall₂_filter_filterMap {α β : Type} {R : α → β → Prop} {f : α → Option β}
    {p : α → Bool} {list : List α} (hp : ∀ a ∈ list, (f a).isSome = p a)
    (hR : ∀ a ∈ list, ∀ b, f a = some b → R a b) :
    List.Forall₂ R (list.filter p) (list.filterMap f) := by
  induction list with
  | nil => exact .nil
  | cons a list ih =>
      rw [List.forall_mem_cons] at hp hR
      have hrest := ih hp.2 hR.2
      cases ha : f a with
      | none =>
          have hskip : p a = false := by rw [← hp.1, ha]; rfl
          rwa [List.filter_cons_of_neg (by simp [hskip]), List.filterMap_cons_none ha]
      | some b =>
          have htake : p a = true := by rw [← hp.1, ha]; rfl
          rw [List.filter_cons_of_pos htake, List.filterMap_cons_some ha]
          exact .cons (hR.1 b ha) hrest

/-- A row is read from every line that has the form of a data line and no discard marker, and from
no other; without discard markers the rows are those that the text writes. -/
theorem parseRows_exact (text : String) :
    (∀ discard : List String,
      List.Forall₂ (fun line row => row.ReadFrom line)
        ((lines text.toList).filter fun line =>
          HasDataForm line ∧ ∀ marker ∈ discard, ¬ marker.toList <:+: line)
        (parseRows discard text)) ∧
    ∀ rows, parseRows [] text = rows ↔ WritesTable rows text.toList := by
  refine ⟨fun discard => forall₂_filter_filterMap (fun line _ => ?_) fun line hline row hrow => ?_,
    fun rows => parseRows_eq_iff⟩
  · rw [Bool.eq_iff_iff, rowOfLine?_isSome_iff, decide_eq_true_iff]
  · exact readFrom_of_rowOfLine? (feed_not_mem_of_mem_lines hline) hrow

end KeyJoin
