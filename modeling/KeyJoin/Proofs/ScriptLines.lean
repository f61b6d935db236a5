import KeyJoin.Proofs.FurtherSelects

/-!
# Scripts are rewritten line by line

The lines of a rewritten script are those of the script, one for one and in
order.  What a line becomes depends on that line alone: a join statement
becomes its comma join and every other line is trimmed.  A script that ends in
a line feed is therefore rewritten without regard to what comes behind it.
-/

namespace KeyJoin

variable {columns : ColumnNames} {line : List Char} {query : JoinQuery} {first : String}

/-! ## One line -/

theorem commaJoinLine_of_recognized
    (h : recognizeJoin? columns (String.ofList line) = some query) :
    commaJoinLine columns line = query.commaJoin.toList := by
  rw [← recognizeJoin?_trim] at h
  -- a line that is kept unread would not be recognized
  have hread : (trim line).isEmpty = false ∧ isComment (trim line) = false := by
    rw [← Bool.or_eq_false_iff, Bool.eq_false_iff]
    intro hkept
    rw [recognizeJoin?_eq_none_of_kept hkept columns] at h
    cases h
  simp only [commaJoinLine, hread, Bool.or_self, Bool.false_eq_true, if_false, h]

/-! ## All lines -/

theorem endLines_append (a b : List (List Char)) :
    endLines (a ++ b) = endLines a ++ endLines b := by
  unfold endLines
  rw [List.flatMap_append]

theorem getLast?_endLines {list : List (List Char)} (hne : list ≠ []) :
    (endLines list).getLast? = some '\n' := by
  rw [← intercalate_feed_append_feed hne, List.getLast?_append]
  rfl

theorem lines_append_of_ended (h : first = "" ∨ first.toList.getLast? = some '\n')
    (second : String) :
    lines (first ++ second).toList = lines first.toList ++ lines second.toList := by
  rw [String.toList_append]
  rcases h with rfl | hended
  · rfl
  · exact lines_append hended second.toList

theorem commaJoinScript_append (columns : ColumnNames)
    (h : first = "" ∨ first.toList.getLast? = some '\n') (second : String) :
    commaJoinScript columns (first ++ second) =
      commaJoinScript columns first ++ commaJoinScript columns second := by
  simp only [commaJoinScript_eq]
  rw [lines_append_of_ended h, List.map_append, endLines_append, String.ofList_append]

theorem commaJoinScript_ended (columns : ColumnNames) (script : String) :
    commaJoinScript columns script = "" ∨
      (commaJoinScript columns script).toList.getLast? = some '\n' := by
  rw [commaJoinScript_eq, String.toList_ofList]
  by_cases hnil : lines script.toList = []
  · left
    rw [hnil]
    rfl
  · right
    apply getLast?_endLines
    simpa using hnil

theorem getElem?_lines_commaJoinScript (columns : ColumnNames) {script : String} {k : Nat}
    (h : (lines script.toList)[k]? = some line) :
    (lines (commaJoinScript columns script).toList)[k]? =
      some (commaJoinLine columns line) := by
  rw [lines_commaJoinScript, List.getElem?_map, h, Option.map_some]

/-- A script is rewritten piece by piece at the ends of its lines.  Each of its lines gives one
line: the comma join of a join statement, and the trimmed line otherwise. -/
theorem commaJoinScript_lineByLine (columns : ColumnNames) :
    (∀ first second : String, first = "" ∨ first.toList.getLast? = some '\n' →
      commaJoinScript columns (first ++ second) =
        commaJoinScript columns first ++ commaJoinScript columns second) ∧
    ∀ script : String,
      (lines (commaJoinScript columns script).toList).length = (lines script.toList).length ∧
      (commaJoinScript columns script = "" ∨
        (commaJoinScript columns script).toList.getLast? = some '\n') ∧
      ∀ (k : Nat) (line : List Char), (lines script.toList)[k]? = some line →
        (∀ query, recognizeJoin? columns (String.ofList line) = some query →
          (lines (commaJoinScript columns script).toList)[k]? = some query.commaJoin.toList) ∧
        (recognizeJoin? columns (String.ofList line) = none →
          (lines (commaJoinScript columns script).toList)[k]? = some (trim line)) := by
  constructor
  · intro first second hended
    exact commaJoinScript_append columns hended second
  · intro script
    refine ⟨?_, commaJoinScript_ended columns script, fun k line hline => ?_⟩
    · rw [lines_commaJoinScript, List.length_map]
    · have hrewritten := getElem?_lines_commaJoinScript columns hline
      constructor
      · intro query hquery
        rw [hrewritten, commaJoinLine_of_recognized hquery]
      · intro hnone
        rw [hrewritten, commaJoinLine_of_unrecognized hnone]

/-- Carriage returns within the lines and in front of their ends, a blank line, and a last line
without an end. -/
theorem commaJoinScript_lineByLine_of_mixed_ends :
    (commaJoinScript {} ("--on\r\n \n" ++ "\u3000select *\rfrom a inner join b on c\r\r\nx\ry ") =
      commaJoinScript {} "--on\r\n \n" ++
        commaJoinScript {} "\u3000select *\rfrom a inner join b on c\r\r\nx\ry ") ∧
    commaJoinScript {} "--on\r\n \n\u3000select *\rfrom a inner join b on c\r\r\nx\ry " =
      "--on\n\nSELECT * FROM a, b;\nx\ry\n" ∧
    (lines "--on\n\nSELECT * FROM a, b;\nx\ry\n".toList)[2]? =
      some "SELECT * FROM a, b;".toList ∧
    (lines "--on\n\nSELECT * FROM a, b;\nx\ry\n".toList)[3]? = some "x\ry".toList := by
  have hscript :
      commaJoinScript {} "--on\r\n \n\u3000select *\rfrom a inner join b on c\r\r\nx\ry " =
        "--on\n\nSELECT * FROM a, b;\nx\ry\n" := by
    decide +kernel
  have hquery : recognizeJoin? {}
      (String.ofList "\u3000select *\rfrom a inner join b on c\r".toList) =
      some
        { projection := .all
          fieldsText := "*"
          leftRelation := "a"
          rightRelation := "b"
          conditionText := "c"
          keyCondition? := none } := by
    decide +kernel
  have hnone : recognizeJoin? {} (String.ofList "x\ry ".toList) = none := by
    decide +kernel
  obtain ⟨happend, hscripts⟩ := commaJoinScript_lineByLine {}
  obtain ⟨-, -, hlines⟩ :=
    hscripts "--on\r\n \n\u3000select *\rfrom a inner join b on c\r\r\nx\ry "
  rewrite [hscript] at hlines
  have hjoin := (hlines 2 _ (by decide +kernel)).1 _ hquery
  have hkept := (hlines 3 _ (by decide +kernel)).2 hnone
  refine ⟨happend _ _ (.inr (by decide +kernel)), hscript, ?_, ?_⟩
  · rewrite [hjoin]
    decide +kernel
  · rewrite [hkept]
    decide +kernel

end KeyJoin
