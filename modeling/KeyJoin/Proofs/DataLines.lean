import KeyJoin.Proofs.TableCells
import Mathlib.Data.List.Infix

/-!
# Lines that hold a row

A line holds a row when it begins with an integer, white space around it, and a
bar behind that; whatever follows the bar belongs to further cells.  The cells
are found again if they are written with bars between them and any white space
around each of them, and every line is written from its cells in this way.
-/

namespace KeyJoin

variable {line text : List Char} {cells : List (List Char)} {row : Row}

/-- Decimal digits, one or more, with a minus sign in front of them or none. -/
def IsInteger (text : List Char) : Prop :=
  ∃ sign digits, text = sign ++ digits ∧ (sign = [] ∨ sign = ['-']) ∧ digits ≠ [] ∧
    ∀ c ∈ digits, c.isDigit = true

/-- An integer and a bar, with white space before and between them; anything behind. -/
def HasDataForm (line : List Char) : Prop :=
  ∃ before key after rest, line = before ++ (key ++ (after ++ '|' :: rest)) ∧
    IsBlankText before ∧ IsInteger key ∧ IsBlankText after

/-- The cells stand in the line with bars between them and white space, or none, around each. -/
inductive WritesCells : List (List Char) → List Char → Prop
  | last {cell before after : List Char} (hbefore : IsBlankText before)
      (hafter : IsBlankText after) : WritesCells [cell] (before ++ (cell ++ after))
  | next {cell before after line : List Char} {cells : List (List Char)}
      (hbefore : IsBlankText before) (hafter : IsBlankText after)
      (rest : WritesCells cells line) :
      WritesCells (cell :: cells) (before ++ (cell ++ (after ++ '|' :: line)))

/-! ## Integers -/

theorem isDigits_iff :
    isDigits text = true ↔ text ≠ [] ∧ ∀ c ∈ text, c.isDigit = true := by
  simp [isDigits]

theorem isKeyText_iff : isKeyText text = true ↔ IsInteger text := by
  unfold isKeyText
  split
  · rename_i rest
    rw [isDigits_iff]
    constructor
    · rintro ⟨hne, hdigits⟩
      exact ⟨['-'], rest, rfl, .inr rfl, hne, hdigits⟩
    · rintro ⟨sign, digits, htext, rfl | rfl, hne, hdigits⟩
      · -- the minus sign would be one of the digits
        rw [List.nil_append] at htext
        exact absurd (hdigits '-' (htext ▸ List.mem_cons_self)) (by decide)
      · cases htext
        exact ⟨hne, hdigits⟩
  · rename_i hsign
    rw [isDigits_iff]
    constructor
    · rintro ⟨hne, hdigits⟩
      exact ⟨[], text, rfl, .inl rfl, hne, hdigits⟩
    · rintro ⟨sign, digits, rfl, rfl | rfl, hne, hdigits⟩
      · exact ⟨hne, hdigits⟩
      · exact absurd rfl (hsign digits)

theorem exists_of_isDigit {c : Char} (h : c.isDigit = true) :
    ∃ n < 10, c = Char.ofNat (48 + n) := by
  simp only [Char.isDigit, Bool.and_eq_true, decide_eq_true_eq] at h
  have hlow : 48 ≤ c.toNat := h.1
  have hhigh : c.toNat ≤ 57 := h.2
  refine ⟨c.toNat - 48, by omega, ?_⟩
  rw [Nat.add_sub_cancel' hlow, Char.ofNat_toNat]

theorem plain_of_isDigit {c : Char} (h : c.isDigit = true) : isBlank c = false ∧ c ≠ '|' := by
  have hdigits : ∀ n < 10,
      isBlank (Char.ofNat (48 + n)) = false ∧ Char.ofNat (48 + n) ≠ '|' := by
    decide
  obtain ⟨n, hn, rfl⟩ := exists_of_isDigit h
  exact hdigits n hn

theorem IsInteger.plain (h : IsInteger text) : ∀ c ∈ text, isBlank c = false ∧ c ≠ '|' := by
  obtain ⟨sign, digits, rfl, hsign, -, hdigits⟩ := h
  intro c hc
  rcases List.mem_append.mp hc with hc | hc
  · rcases hsign with rfl | rfl
    · cases hc
    · obtain rfl := List.mem_singleton.mp hc
      decide
  · exact plain_of_isDigit (hdigits c hc)

theorem IsInteger.unpadded (h : IsInteger text) : Unpadded text :=
  ⟨fun c hc => (h.plain c (List.mem_of_head? hc)).1,
    fun c hc => (h.plain c (List.mem_of_getLast? hc)).1⟩

/-! ## Bars of a line -/

theorem barCells_ne_nil (line : List Char) : barCells line ≠ [] := by
  simp [barCells]

theorem length_barCells (line : List Char) : (barCells line).length = line.count '|' + 1 := by
  induction line using bar_induction with
  | plain line hbar =>
      rw [barCells_of_bar_not_mem hbar, List.count_eq_zero.mpr hbar]
      rfl
  | cut a b ha ih =>
      rw [barCells_append_bar_cons, barCells_of_bar_not_mem ha, List.length_append, ih,
        List.count_append, List.count_cons_self, List.count_eq_zero.mpr ha]
      simp only [List.length_singleton]
      omega

theorem barCells_padded {cell before after : List Char} (hcell : Unpadded cell)
    (hbar : '|' ∉ cell) (hbefore : IsBlankText before) (hafter : IsBlankText after) :
    barCells (before ++ (cell ++ after)) = [cell] := by
  rw [barCells_blank_append hbefore, barCells_append_blank hafter, barCells_of_bar_not_mem hbar,
    trim_of_unpadded hcell]

theorem barCells_padded_bar {cell before after : List Char} (hcell : Unpadded cell)
    (hbar : '|' ∉ cell) (hbefore : IsBlankText before) (hafter : IsBlankText after)
    (line : List Char) :
    barCells (before ++ (cell ++ (after ++ '|' :: line))) = cell :: barCells line := by
  have hassoc : before ++ (cell ++ (after ++ '|' :: line)) =
      (before ++ (cell ++ after)) ++ '|' :: line := by
    simp only [List.append_assoc]
  rw [hassoc, barCells_append_bar_cons, barCells_padded hcell hbar hbefore hafter]
  rfl

/-- The first of two cells or more is cut off at a bar. -/
theorem exists_bar_of_two_le_length (h : 2 ≤ (barCells line).length) :
    ∃ a b, line = a ++ '|' :: b ∧ '|' ∉ a := by
  induction line using bar_induction with
  | plain line hbar =>
      rw [barCells_of_bar_not_mem hbar] at h
      simp at h
  | cut a b ha ih => exact ⟨a, b, rfl, ha⟩

theorem dataCells?_isSome_iff : (dataCells? line).isSome = true ↔ HasDataForm line := by
  rw [Option.isSome_iff_exists]
  constructor
  · rintro ⟨cells, hcells⟩
    obtain ⟨rfl, htwo, hkey⟩ := dataCells?_eq_some_iff.mp hcells
    obtain ⟨a, rest, rfl, ha⟩ := exists_bar_of_two_le_length htwo
    obtain ⟨before, after, hmargins, hbefore, hafter⟩ := exists_margins a
    rw [barCells_append_bar_cons, barCells_of_bar_not_mem ha] at hkey
    refine ⟨before, trim a, after, rest, ?_, hbefore, isKeyText_iff.mp hkey, hafter⟩
    conv_lhs => rw [hmargins]
    simp only [List.append_assoc]
  · rintro ⟨before, key, after, rest, rfl, hbefore, hkey, hafter⟩
    have hbar : '|' ∉ key := fun hmem => (hkey.plain '|' hmem).2 rfl
    have hcells := barCells_padded_bar hkey.unpadded hbar hbefore hafter rest
    have hrest := List.length_pos_iff.mpr (barCells_ne_nil rest)
    refine ⟨_, dataCells?_eq_some_iff.mpr ⟨hcells, ?_, isKeyText_iff.mpr hkey⟩⟩
    rw [List.length_cons]
    omega

instance : DecidablePred HasDataForm :=
  fun _ => decidable_of_iff _ dataCells?_isSome_iff

/-! ## Written cells -/

/-- Every line is its cells with the margins that trimming takes off them. -/
theorem writesCells_barCells (line : List Char) : WritesCells (barCells line) line := by
  induction line using bar_induction with
  | plain line hbar =>
      obtain ⟨before, after, hmargins, hbefore, hafter⟩ := exists_margins line
      have hline : WritesCells [trim line] (before ++ (trim line ++ after)) :=
        .last hbefore hafter
      rw [← hmargins] at hline
      rwa [barCells_of_bar_not_mem hbar]
  | cut a b ha ih =>
      obtain ⟨before, after, hmargins, hbefore, hafter⟩ := exists_margins a
      have hline : WritesCells (trim a :: barCells b)
          (before ++ (trim a ++ (after ++ '|' :: b))) :=
        .next hbefore hafter ih
      have hcut : before ++ (trim a ++ (after ++ '|' :: b)) = a ++ '|' :: b := by
        conv_rhs => rw [hmargins]
        simp only [List.append_assoc]
      rw [hcut] at hline
      rwa [barCells_append_bar_cons, barCells_of_bar_not_mem ha]

theorem WritesCells.barCells_eq (h : WritesCells cells line)
    (hcells : ∀ cell ∈ cells, Unpadded cell ∧ '|' ∉ cell) : barCells line = cells := by
  induction h with
  | last hbefore hafter =>
      obtain ⟨hunpadded, hbar⟩ := hcells _ List.mem_cons_self
      exact barCells_padded hunpadded hbar hbefore hafter
  | next hbefore hafter rest ih =>
      rw [List.forall_mem_cons] at hcells
      rw [barCells_padded_bar hcells.1.1 hcells.1.2 hbefore hafter, ih hcells.2]

/-! ## Markers -/

theorem occursIn_iff {part : List Char} : occursIn part text = true ↔ part <:+: text := by
  induction text with
  | nil => simp [occursIn]
  | cons c text ih => simp [occursIn, ih, List.infix_cons_iff]

theorem holdsAny_eq_false_iff {markers : List String} :
    holdsAny markers line = false ↔ ∀ marker ∈ markers, ¬ marker.toList <:+: line := by
  simp [holdsAny, ← occursIn_iff]

/-! ## Rows -/

theorem rowOfLine?_isSome_iff {discard : List String} :
    (rowOfLine? discard line).isSome = true ↔
      HasDataForm line ∧ ∀ marker ∈ discard, ¬ marker.toList <:+: line := by
  rw [← holdsAny_eq_false_iff, ← dataCells?_isSome_iff, rowOfLine?]
  cases holdsAny discard line <;> simp

theorem writesCells_of_rowOfLine? {discard : List String}
    (h : rowOfLine? discard line = some row) :
    WritesCells (row.cells.map String.toList) line := by
  unfold rowOfLine? at h
  split at h
  · cases h
  · obtain ⟨cells, hcells, rfl⟩ := Option.map_eq_some_iff.mp h
    obtain ⟨rfl, -, -⟩ := dataCells?_eq_some_iff.mp hcells
    simpa [Function.comp_def] using writesCells_barCells line

theorem WritesCells.rowOfLine?_eq (h : WritesCells (row.cells.map String.toList) line)
    (hrow : row.IsTabular) : rowOfLine? [] line = some row := by
  have hplain : ∀ cell ∈ row.cells.map String.toList, Unpadded cell ∧ '|' ∉ cell := by
    intro part hpart
    obtain ⟨cell, hcell, rfl⟩ := List.mem_map.mp hpart
    exact ⟨(hrow.cells cell hcell).unpadded, (hrow.cells cell hcell).noBar⟩
  have hcells : dataCells? line = some (row.cells.map String.toList) := by
    refine dataCells?_eq_some_iff.mpr ⟨h.barCells_eq hplain, by simpa using hrow.two, ?_⟩
    simpa [Option.any_map, Function.comp_def] using hrow.key
  rw [rowOfLine?, hcells]
  simp [holdsAny, Function.comp_def]

end KeyJoin
