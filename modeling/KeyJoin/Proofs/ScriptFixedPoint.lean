import KeyJoin.CommaJoinScript
import KeyJoin.Proofs.CommaJoin
import KeyJoin.Proofs.LineBreaks

/-!
# Scripts settle in one pass

A line is settled when no white space stands around it, it holds no line feed
and it is no join statement.  Every line that the rewriting of a script writes
is settled, whether it was copied or is a comma join, and a settled line is
written as it is.  Hence a second rewriting finds the lines of the first one
and changes none of them.
-/

namespace KeyJoin

variable {columns : ColumnNames} {line text : List Char}

structure IsSettled (line : List Char) : Prop where
  unpadded : Unpadded line
  noFeed : '\n' ∉ line
  noJoin : ∀ columns, recognizeJoin? columns (String.ofList line) = none

/-- A settled line does not end in a carriage return, which is white space. -/
theorem IsSettled.isPlainLine (h : IsSettled line) : IsPlainLine line := by
  refine ⟨h.noFeed, fun hlast => ?_⟩
  have hblank := h.unpadded.last '\r' hlast
  exact absurd hblank (by decide)

/-! ## Lines that are copied -/

theorem recognizeJoin?_eq_none_of_columns {statement : String}
    (h : recognizeJoin? columns statement = none) (columns' : ColumnNames) :
    recognizeJoin? columns' statement = none := by
  rw [← Option.not_isSome_iff_eq_none, recognizeJoin?_isSome_iff] at h ⊢
  exact h

/-- A join statement begins with a word, so a text that begins with a mark is none. -/
theorem recognizeJoin?_eq_none_of_mark {c : Char} {rest : List Char} (hblank : isBlank c = false)
    (hword : isWordCharacter c = false) (columns : ColumnNames) :
    recognizeJoin? columns (String.ofList (c :: rest)) = none := by
  rw [← Option.not_isSome_iff_eq_none, recognizeJoin?_isSome_iff, String.toList_ofList,
    kindsOf_mark_cons hblank hword]
  rintro ⟨index, left, right, hstatement⟩
  obtain ⟨text, hfirst, -⟩ := any_isKeyword_iff.mp hstatement.select
  have hprefix := bodyKinds_isPrefix (TokenKind.ofMark c :: kindsOf rest)
  cases hbody : bodyKinds (TokenKind.ofMark c :: kindsOf rest) with
  | nil =>
      rw [hbody] at hfirst
      cases hfirst
  | cons kind kinds =>
      rw [hbody] at hfirst hprefix
      have hkind : kind = .word text := by simpa using hfirst
      have hmark : kind = TokenKind.ofMark c := (List.cons_prefix_cons.mp hprefix).1
      exact TokenKind.ofMark_ne_word c text (hmark.symm.trans hkind)

theorem recognizeJoin?_nil (columns : ColumnNames) :
    recognizeJoin? columns (String.ofList []) = none := by
  rfl

theorem eq_of_isComment_cons {c : Char} {rest : List Char} (h : isComment (c :: rest) = true) :
    c = '-' := by
  obtain ⟨hmark, -⟩ : '-' = c ∧ _ := by simpa [isComment, List.isPrefixOf] using h
  exact hmark.symm

/-- Blank lines and comments, which are kept unread, are no join statements. -/
theorem recognizeJoin?_eq_none_of_kept (h : (line.isEmpty || isComment line) = true)
    (columns : ColumnNames) : recognizeJoin? columns (String.ofList line) = none := by
  cases line with
  | nil => exact recognizeJoin?_nil columns
  | cons c rest =>
      obtain rfl := eq_of_isComment_cons (by simpa using h)
      exact recognizeJoin?_eq_none_of_mark (by decide) (by decide) columns

theorem isSettled_trim (hfeed : '\n' ∉ line)
    (hjoin : recognizeJoin? columns (String.ofList (trim line)) = none) :
    IsSettled (trim line) :=
  ⟨unpadded_trim line, fun hmem => hfeed (mem_of_mem_trim hmem),
    recognizeJoin?_eq_none_of_columns hjoin⟩

/-! ## Lines that become comma joins -/

theorem Spaced.mem_of_mem_part {parts : List (List Char)} {part : List Char} {c : Char}
    (h : Spaced parts text) (hpart : part ∈ parts) (hc : c ∈ part) : c ∈ text := by
  induction h with
  | blank => cases hpart
  | part gap hgap rest ih =>
      rcases List.mem_cons.mp hpart with rfl | hpart
      · simp [hc]
      · simp [ih hpart]

theorem feed_not_mem_commaJoin {query : JoinQuery} (hwritten : query.WrittenIn text)
    (hfeed : '\n' ∉ text) : '\n' ∉ query.commaJoin.toList := by
  obtain ⟨select, fromWord, inner, join, on, ending, -, -, -, -, -, -, hspaced⟩ := hwritten.parts
  have hfields : '\n' ∉ query.fieldsText.toList :=
    fun hc => hfeed (hspaced.mem_of_mem_part (by simp) hc)
  have hleft : '\n' ∉ query.leftRelation.toList :=
    fun hc => hfeed (hspaced.mem_of_mem_part (by simp) hc)
  have hright : '\n' ∉ query.rightRelation.toList :=
    fun hc => hfeed (hspaced.mem_of_mem_part (by simp) hc)
  simp [query.commaJoin_toList, Keyword.letters, hfields, hleft, hright]

/-- A comma join begins with a letter and ends with its semicolon. -/
theorem unpadded_commaJoin (query : JoinQuery) : Unpadded query.commaJoin.toList := by
  rw [query.commaJoin_toList]
  constructor
  · intro c hc
    obtain rfl : c = 'S' := by simpa [Keyword.letters, eq_comm] using hc
    decide
  · intro c hc
    obtain rfl : c = ';' := by
      simpa [Keyword.letters, List.getLast?_append, List.getLast?_cons, eq_comm] using hc
    decide

theorem isSettled_commaJoin {statement : String} {query : JoinQuery}
    (hfeed : '\n' ∉ statement.toList) (h : recognizeJoin? columns statement = some query) :
    IsSettled query.commaJoin.toList := by
  have hwritten := writtenIn_of_recognizeJoin? h
  refine ⟨unpadded_commaJoin query, feed_not_mem_commaJoin hwritten hfeed, fun columns' => ?_⟩
  rw [String.ofList_toList]
  exact recognizeJoin?_commaJoin_eq_none h columns'

/-! ## Rewriting -/

theorem isSettled_commaJoinLine (columns : ColumnNames) (hfeed : '\n' ∉ line) :
    IsSettled (commaJoinLine columns line) := by
  have htrim : '\n' ∉ trim line := fun hmem => hfeed (mem_of_mem_trim hmem)
  unfold commaJoinLine
  dsimp only
  split
  · rename_i hkept
    exact isSettled_trim hfeed (recognizeJoin?_eq_none_of_kept hkept columns)
  · split
    · rename_i query hquery
      exact isSettled_commaJoin (by rwa [String.toList_ofList]) hquery
    · rename_i hnone
      exact isSettled_trim hfeed hnone

theorem commaJoinLine_of_isSettled (columns : ColumnNames) (h : IsSettled line) :
    commaJoinLine columns line = line := by
  have htrim := trim_of_unpadded h.unpadded
  simp only [commaJoinLine, htrim, h.noJoin columns]
  split <;> rfl

theorem commaJoinScript_eq (columns : ColumnNames) (script : String) :
    commaJoinScript columns script =
      String.ofList (endLines ((lines script.toList).map (commaJoinLine columns))) := by
  rw [commaJoinScript, endLines, List.flatMap_map]

theorem isSettled_of_mem_map_commaJoinLine {script : String}
    (h : line ∈ (lines script.toList).map (commaJoinLine columns)) : IsSettled line := by
  obtain ⟨source, hsource, rfl⟩ := List.mem_map.mp h
  exact isSettled_commaJoinLine columns (feed_not_mem_of_mem_lines hsource)

theorem lines_commaJoinScript (columns : ColumnNames) (script : String) :
    lines (commaJoinScript columns script).toList =
      (lines script.toList).map (commaJoinLine columns) := by
  rw [commaJoinScript_eq, String.toList_ofList]
  exact lines_endLines fun line hline => (isSettled_of_mem_map_commaJoinLine hline).isPlainLine

/-- A rewritten script is rewritten to itself, and none of its lines is a join statement. -/
theorem commaJoinScript_fixedPoint (columns : ColumnNames) (script : String) :
    commaJoinScript columns (commaJoinScript columns script) = commaJoinScript columns script ∧
    ∀ line ∈ lines (commaJoinScript columns script).toList,
      ∀ columns', recognizeJoin? columns' (String.ofList line) = none := by
  have hlines := lines_commaJoinScript columns script
  constructor
  · have hsettled : ∀ line ∈ (lines script.toList).map (commaJoinLine columns),
        commaJoinLine columns line = id line := by
      intro line hline
      exact commaJoinLine_of_isSettled columns (isSettled_of_mem_map_commaJoinLine hline)
    rw [commaJoinScript_eq columns (commaJoinScript columns script), hlines,
      List.map_congr_left hsettled, List.map_id, ← commaJoinScript_eq]
  · intro line hline columns'
    rw [hlines] at hline
    exact (isSettled_of_mem_map_commaJoinLine hline).noJoin columns'

/-- A comment, and a join with white space around it and a carriage return of its own, the last
line being unended. -/
theorem commaJoinScript_fixedPoint_of_mixed_ends :
    commaJoinScript {} "--on\r\n\u3000select *\rfrom a inner join b on c\r" =
      "--on\nSELECT * FROM a, b;\n" ∧
    commaJoinScript {} "--on\nSELECT * FROM a, b;\n" = "--on\nSELECT * FROM a, b;\n" ∧
    "SELECT * FROM a, b;".toList ∈ lines "--on\nSELECT * FROM a, b;\n".toList ∧
    recognizeJoin? {} "SELECT * FROM a, b;" = none := by
  have hscript : commaJoinScript {} "--on\r\n\u3000select *\rfrom a inner join b on c\r" =
      "--on\nSELECT * FROM a, b;\n" := by
    decide +kernel
  have hmem : "SELECT * FROM a, b;".toList ∈ lines "--on\nSELECT * FROM a, b;\n".toList := by
    decide +kernel
  obtain ⟨hfixed, hnone⟩ :=
    commaJoinScript_fixedPoint {} "--on\r\n\u3000select *\rfrom a inner join b on c\r"
  rw [hscript] at hfixed hnone
  have hline := hnone _ hmem {}
  rw [String.ofList_toList] at hline
  exact ⟨hscript, hfixed, hmem, hline⟩

end KeyJoin
