import KeyJoin.Proofs.LineBreaks
import KeyJoin.Proofs.ListPieces
import KeyJoin.Proofs.TextMargins
import KeyJoin.TableRows

/-!
# Cells of a table line

The bars of a line cut it into pieces, and a cell is such a piece trimmed.
Margins of the line do not matter, since its first and its last piece are
trimmed in any case.  Cells are texts without margins, bars and line feeds, and
any such texts are the cells of the line that writes them with bars between
them, however many of them are empty.
-/

namespace KeyJoin

variable {line : List Char} {cells : List (List Char)}

/-! ## Pieces between bars -/

theorem splitOnP_bar_of_not_mem (h : '|' ∉ line) : line.splitOnP (· == '|') = [line] := by
  refine List.splitOnP_eq_singleton fun c hc => ?_
  rw [beq_eq_false_iff_ne]
  rintro rfl
  exact h hc

/-- A line has no bar, or a first one with a shorter line behind it. -/
@[elab_as_elim]
theorem bar_induction {motive : List Char → Prop} (line : List Char)
    (plain : ∀ line, '|' ∉ line → motive line)
    (cut : ∀ a b, '|' ∉ a → motive b → motive (a ++ '|' :: b)) : motive line := by
  induction line using cut_induction (p := (· == '|')) with
  | plain line hline => exact plain line fun hbar => by simpa using hline '|' hbar
  | cut a c b ha hc ih =>
      obtain rfl : c = '|' := by simpa using hc
      exact cut a b (fun hbar => by simpa using ha '|' hbar) ih

def barCells (line : List Char) : List (List Char) :=
  (line.splitOnP (· == '|')).map trim

theorem barCells_of_bar_not_mem (h : '|' ∉ line) : barCells line = [trim line] := by
  rw [barCells, splitOnP_bar_of_not_mem h]
  rfl

theorem barCells_append_bar_cons (a b : List Char) :
    barCells (a ++ '|' :: b) = barCells a ++ barCells b := by
  rw [barCells, List.splitOnP_append_cons a b (by decide), List.map_append]
  rfl

theorem bar_not_mem_of_isBlankText {gap : List Char} (hgap : IsBlankText gap) : '|' ∉ gap := by
  intro hbar
  exact absurd (hgap '|' hbar) (by decide)

theorem barCells_blank_append {gap : List Char} (hgap : IsBlankText gap) (line : List Char) :
    barCells (gap ++ line) = barCells line := by
  have hnone := bar_not_mem_of_isBlankText hgap
  induction line using bar_induction with
  | plain line hbar =>
      rw [barCells_of_bar_not_mem hbar, barCells_of_bar_not_mem (by simp [hnone, hbar]),
        trim_blank_append hgap]
  | cut a b ha ih =>
      rw [← List.append_assoc, barCells_append_bar_cons, barCells_append_bar_cons,
        barCells_of_bar_not_mem ha, barCells_of_bar_not_mem (by simp [hnone, ha]),
        trim_blank_append hgap]

theorem barCells_append_blank {gap : List Char} (hgap : IsBlankText gap) (line : List Char) :
    barCells (line ++ gap) = barCells line := by
  have hnone := bar_not_mem_of_isBlankText hgap
  induction line using bar_induction with
  | plain line hbar =>
      rw [barCells_of_bar_not_mem hbar, barCells_of_bar_not_mem (by simp [hnone, hbar]),
        trim_append_blank hgap]
  | cut a b ha ih =>
      rw [List.append_assoc, List.cons_append, barCells_append_bar_cons, ih,
        barCells_append_bar_cons]

theorem barCells_trim (line : List Char) : barCells (trim line) = barCells line := by
  obtain ⟨before, after, hline, hbefore, hafter⟩ := exists_margins line
  conv_rhs => rw [hline]
  rw [barCells_blank_append hbefore, barCells_append_blank hafter]

/-- A data line has at least two cells, the first of them a key. -/
theorem dataCells?_eq_some_iff :
    dataCells? line = some cells ↔
      barCells line = cells ∧ 2 ≤ cells.length ∧ cells.head?.any isKeyText = true := by
  rw [← barCells_trim, barCells, dataCells?]
  rcases ((trim line).splitOnP (· == '|')).map trim with _ | ⟨key, _ | ⟨second, rest⟩⟩
  · constructor
    · intro h
      cases h
    · rintro ⟨rfl, htwo, -⟩
      simp at htwo
  · constructor
    · intro h
      cases h
    · rintro ⟨rfl, htwo, -⟩
      simp at htwo
  · constructor
    · intro h
      dsimp only at h
      split at h
      · rename_i hkey
        cases h
        exact ⟨rfl, by simp, hkey⟩
      · cases h
    · rintro ⟨rfl, -, hkey⟩
      exact if_pos hkey

/-! ## Cells -/

/-- What can stand in a cell. -/
structure IsCell (cell : List Char) : Prop where
  unpadded : Unpadded cell
  noBar : '|' ∉ cell
  noFeed : '\n' ∉ cell

theorem isCell_nil : IsCell [] :=
  ⟨⟨by simp, by simp⟩, by simp, by simp⟩

theorem isCell_of_mem_barCells {cell : List Char} (hfeed : '\n' ∉ line)
    (h : cell ∈ barCells line) : IsCell cell := by
  obtain ⟨piece, hpiece, rfl⟩ := List.mem_map.mp h
  refine ⟨unpadded_trim piece, fun hbar => ?_, fun hmem => ?_⟩
  · simpa using (mem_of_mem_splitOnP hpiece (mem_of_mem_trim hbar)).2
  · exact hfeed (mem_of_mem_splitOnP hpiece (mem_of_mem_trim hmem)).1

/-- A row that a table can have. -/
structure Row.IsTabular (row : Row) : Prop where
  cells : ∀ cell ∈ row.cells, IsCell cell.toList
  two : 2 ≤ row.cells.length
  key : row.cells.head?.any (fun key => isKeyText key.toList) = true

theorem isTabular_of_rowOfLine? {discard : List String} {row : Row} (hfeed : '\n' ∉ line)
    (h : rowOfLine? discard line = some row) : row.IsTabular := by
  unfold rowOfLine? at h
  split at h
  · cases h
  · obtain ⟨cells, hcells, rfl⟩ := Option.map_eq_some_iff.mp h
    obtain ⟨rfl, htwo, hkey⟩ := dataCells?_eq_some_iff.mp hcells
    refine ⟨fun cell hcell => ?_, by simpa using htwo, ?_⟩
    · obtain ⟨part, hpart, rfl⟩ := List.mem_map.mp hcell
      rw [String.toList_ofList]
      exact isCell_of_mem_barCells hfeed hpart
    · simpa [Option.any_map, Function.comp_def] using hkey

theorem isTabular_of_mem_parseRows {discard : List String} {text : String} {row : Row}
    (h : row ∈ parseRows discard text) : row.IsTabular := by
  obtain ⟨line, hline, hsome⟩ := List.mem_filterMap.mp h
  exact isTabular_of_rowOfLine? (feed_not_mem_of_mem_lines hline) hsome

/-! ## Lines written from cells -/

def writeCells (cells : List (List Char)) : List Char :=
  [' ', '|', ' '].intercalate cells

theorem toList_intercalate_bar (cells : List String) :
    (String.intercalate " | " cells).toList = writeCells (cells.map String.toList) := by
  rw [String.toList_intercalate]
  rfl

theorem mem_toList_intercalate {separator line : String} {lines : List String} {c : Char}
    (hline : line ∈ lines) (hc : c ∈ line.toList) :
    c ∈ (String.intercalate separator lines).toList := by
  induction lines with
  | nil => cases hline
  | cons first lines ih =>
      cases lines with
      | nil =>
          obtain rfl := List.mem_singleton.mp hline
          simpa using hc
      | cons second rest =>
          rw [String.intercalate_cons_cons, String.toList_append, String.toList_append]
          rcases List.mem_cons.mp hline with rfl | hline
          · exact List.mem_append_left _ (List.mem_append_left _ hc)
          · exact List.mem_append_right _ (ih hline)

theorem bar_mem_intercalate {cells : List String} (h : 2 ≤ cells.length) :
    '|' ∈ (String.intercalate " | " cells).toList := by
  match cells, h with
  | first :: second :: rest, _ => simp [String.intercalate_cons_cons]

theorem writeCells_cons_cons (first second : List Char) (rest : List (List Char)) :
    writeCells (first :: second :: rest) =
      (first ++ [' ']) ++ '|' :: ([' '] ++ writeCells (second :: rest)) := by
  simp [writeCells, List.intercalate_cons_cons]

theorem barCells_writeCells (hcells : ∀ cell ∈ cells, IsCell cell) (hne : cells ≠ []) :
    barCells (writeCells cells) = cells := by
  have hspace : IsBlankText [' '] := by simp [IsBlankText]; decide
  induction cells with
  | nil => exact absurd rfl hne
  | cons first rest ih =>
      have hfirst := hcells first List.mem_cons_self
      have hcell : barCells first = [first] := by
        rw [barCells_of_bar_not_mem hfirst.noBar, trim_of_unpadded hfirst.unpadded]
      cases rest with
      | nil => simpa [writeCells] using hcell
      | cons second rest =>
          have hrest := ih (fun cell hcell => hcells cell (List.mem_cons_of_mem first hcell))
            (by simp)
          rw [writeCells_cons_cons, barCells_append_bar_cons, barCells_append_blank hspace,
            barCells_blank_append hspace, hcell, hrest]
          rfl

theorem Row.IsTabular.dataCells?_writeCells {row : Row} (h : row.IsTabular) :
    dataCells? (writeCells (row.cells.map String.toList)) = some (row.cells.map String.toList) := by
  have htwo := h.two
  have hcells : ∀ cell ∈ row.cells.map String.toList, IsCell cell := by
    intro part hpart
    obtain ⟨cell, hcell, rfl⟩ := List.mem_map.mp hpart
    exact h.cells cell hcell
  have hne : row.cells.map String.toList ≠ [] := by
    rw [← List.length_pos_iff, List.length_map]
    omega
  refine dataCells?_eq_some_iff.mpr ⟨barCells_writeCells hcells hne, by simpa using htwo, ?_⟩
  simpa [Option.any_map, Function.comp_def] using h.key

/-- The last character of a line is that of its last cell, or the space behind the last bar. -/
theorem isPlainLine_writeCells (hcells : ∀ cell ∈ cells, IsCell cell) :
    IsPlainLine (writeCells cells) := by
  induction cells with
  | nil => exact ⟨by simp [writeCells], by simp [writeCells]⟩
  | cons first rest ih =>
      have hfirst := hcells first List.mem_cons_self
      have hreturn : first.getLast? ≠ some '\r' := by
        intro hlast
        exact absurd (hfirst.unpadded.last '\r' hlast) (by decide)
      cases rest with
      | nil => simpa [writeCells] using IsPlainLine.mk hfirst.noFeed hreturn
      | cons second rest =>
          obtain ⟨hfeed, hlast⟩ := ih fun cell hcell => hcells cell (List.mem_cons_of_mem _ hcell)
          rw [writeCells_cons_cons]
          refine ⟨by simp [hfirst.noFeed, hfeed], ?_⟩
          cases hrest : writeCells (second :: rest) with
          | nil => simp [List.getLast?_append, List.getLast?_cons]
          | cons c text =>
              rw [hrest, List.getLast?_cons] at hlast
              simpa [List.getLast?_append, List.getLast?_cons] using hlast

end KeyJoin
