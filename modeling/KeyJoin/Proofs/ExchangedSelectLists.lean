import KeyJoin.Proofs.ResolvedItems
import KeyJoin.Proofs.RestatedQuery

/-!
# Statements with another select list

The select list of a recognized statement can be cut out and another text put
in its place.  If that text is a select list by itself, in which commas and dots
separate the words, the statement is recognized again: it is split behind the
new list, with the same relations and the same tokens of the condition.
-/

namespace KeyJoin

variable {columns : ColumnNames} {statement : String} {query : JoinQuery} {list : List Char}
  {kinds newKinds : List TokenKind} {index : Nat} {left right : List Char}

/-- `text` has the tokens of the statement, with those of `list` in place of the select list; a
semicolon at the end does not count. -/
def ExchangesSelectList (statement : String) (list : List Char) (text : String) : Prop :=
  ∃ index left right,
    let kinds := bodyKinds (kindsOf statement.toList)
    IsJoinStatement kinds index left right ∧
      bodyKinds (kindsOf text.toList) = kinds.take 1 ++ (kindsOf list ++ kinds.drop index)

/-! ## The grammar of the statement -/

theorem IsJoinStatement.exists_take_one (h : IsJoinStatement kinds index left right) :
    ∃ select, kinds.take 1 = [select] ∧ select.isKeyword .select = true := by
  have hselect := h.select
  cases kinds with
  | nil => cases hselect
  | cons select rest => exact ⟨select, rfl, hselect⟩

theorem IsJoinStatement.index_eq (h : IsJoinStatement kinds index left right) :
    index = 1 + ((kinds.take index).drop 1).length := by
  have hlength := h.joins.condition
  have hlist := h.selectList
  rw [List.length_drop, List.length_take]
  omega

/-- What stands behind the select list goes with any other list. -/
theorem IsJoinStatement.exchange (h : IsJoinStatement kinds index left right)
    (hlist : IsSelectList newKinds) :
    IsJoinStatement (kinds.take 1 ++ (newKinds ++ kinds.drop index)) (1 + newKinds.length)
      left right := by
  obtain ⟨select, htake, hselect⟩ := h.exists_take_one
  rw [htake]
  refine hlist.isJoinStatement hselect ((joinsAt_drop index).mpr h.joins) (fun hmem => ?_) ?_
  · exact h.single (List.mem_of_mem_drop hmem)
  · rw [List.drop_drop]
    exact h.twoRelations

/-! ## Recognition of the statement -/

/-- The select list takes as many tokens of the statement as its text has. -/
theorem exchangesSelectList_of_recognizeJoin? {text : String}
    (h : recognizeJoin? columns statement = some query)
    (htext : let kinds := bodyKinds (kindsOf statement.toList)
      bodyKinds (kindsOf text.toList) = kinds.take 1 ++
        (kindsOf list ++ kinds.drop (1 + (kindsOf query.fieldsText.toList).length))) :
    ExchangesSelectList statement list text := by
  obtain ⟨index, hcut⟩ := exists_cutFrom_of_recognizeJoin? h
  rw [hcut.fields, ← hcut.isStatement.index_eq] at htext
  exact ⟨index, _, _, hcut.isStatement, htext⟩

theorem exists_recognizeJoin?_of_exchanges {text : String}
    (h : recognizeJoin? columns statement = some query)
    (hlist : IsSelectList (kindsOf list)) (htext : ExchangesSelectList statement list text) :
    ∃ taken, recognizeJoin? columns text = some taken ∧
      taken.leftRelation = query.leftRelation ∧ taken.rightRelation = query.rightRelation ∧
      kindsOf taken.fieldsText.toList = kindsOf list ∧
      kindsOf taken.conditionText.toList = kindsOf query.conditionText.toList := by
  obtain ⟨index, hcut⟩ := exists_cutFrom_of_recognizeJoin? h
  obtain ⟨index', left, right, hstatement, hkinds⟩ := htext
  obtain rfl := hcut.isStatement.index_unique hstatement
  have hexchanged := hcut.isStatement.exchange hlist
  rw [← hkinds] at hexchanged
  obtain ⟨taken, htaken, hcut', hleft, hright⟩ := hexchanged.exists_cutFrom columns
  obtain ⟨select, htake, -⟩ := hcut.isStatement.exists_take_one
  refine ⟨taken, htaken, String.toList_inj.mp hleft, String.toList_inj.mp hright, ?_, ?_⟩
  · rw [hcut'.fields, hkinds, htake, Nat.add_comm]
    simp
  · rw [hcut'.condition, hkinds, hcut.condition, htake, Nat.add_assoc, ← List.drop_drop,
      ← List.drop_drop]
    simp [List.drop_drop]

/-! ## The text of the statement -/

/-- The text of the select list has the tokens before and behind the list on its two sides. -/
theorem StatementParts.Read.exists_around {parts : StatementParts} {ending : List Token}
    {text : List Char} (h : parts.Read ending text index left right) :
    ∃ before after, text = before ++ (spanText text parts.selectList ++ after) ∧
      kindsOf before = [parts.select.kind] ∧
      kindsOf after =
        (parts.clauseTokens ++ (parts.condition ++ ending)).map Token.kind := by
  have hlayout := h.layout
  rw [parts.body_append_selectList] at hlayout
  obtain ⟨front, rest, htext, hfront, hrest⟩ := hlayout.split
  obtain ⟨piece, after, rfl, hpiece, hafter⟩ := hrest.split
  rw [Nat.zero_add] at hpiece
  obtain ⟨gap, fields, hfields, rfl, hgap, -⟩ := hpiece.span h.joins.selectList after
  rw [← htext] at hfields
  refine ⟨front ++ gap, after, ?_, ?_, hafter.kindsOf_eq⟩
  · rw [hfields, htext]
    simp only [List.append_assoc]
  · rw [kindsOf_append front (startsWord_of_isBlankText hgap), hfront.layout.kindsOf_eq]
    have hnone : kindsOf gap = [] := by
      rw [← List.append_nil gap, kindsOf_blank_append hgap]
      rfl
    rw [hnone]
    rfl

/-- The select list is cut out of the statement where it stands, and spaces keep the new list apart
from the words around it. -/
theorem exists_text_around_selectList (h : recognizeJoin? columns statement = some query) :
    ∃ before after, statement.toList = before ++ (query.fieldsText.toList ++ after) ∧
      ∀ list, ExchangesSelectList statement list
        (String.ofList (before ++ ([' '] ++ (list ++ ([' '] ++ after))))) := by
  obtain ⟨index, left, right, parts, ending, hread, rfl⟩ := exists_read_of_recognizeJoin? h
  obtain ⟨before, after, htext, hbefore, hafter⟩ := hread.exists_around
  refine ⟨before, after, by simpa [JoinStatement.toQuery] using htext, fun list => ?_⟩
  have hne : kindsOf after ≠ [] := by
    rw [hafter]
    simp [StatementParts.clauseTokens]
  have hkinds : bodyKinds (kindsOf statement.toList) =
      [parts.select.kind] ++ (parts.selectList.map Token.kind ++ bodyKinds (kindsOf after)) := by
    have hstatement : kindsOf statement.toList =
        [parts.select.kind] ++ (parts.selectList.map Token.kind ++ kindsOf after) := by
      rw [kindsOf, hread.tokens, parts.body_append_selectList, hafter]
      simp
    rw [hstatement, bodyKinds_append _ (by simp [hne]), bodyKinds_append _ hne]
  have hindex : index = 1 + (parts.selectList.map Token.kind).length := by
    rw [hread.fields]
    exact hread.isStatement.index_eq
  have hnew : kindsOf (before ++ ([' '] ++ (list ++ ([' '] ++ after)))) =
      kindsOf before ++ (kindsOf list ++ kindsOf after) := by
    rw [kindsOf_append_blank_append before isBlankText_space (by simp),
      kindsOf_append_blank_append list isBlankText_space (by simp)]
  refine ⟨index, left, right, hread.isStatement, ?_⟩
  rw [String.toList_ofList, hnew, bodyKinds_append _ (by simp [hne]), bodyKinds_append _ hne,
    hkinds, hindex, hbefore, ← List.drop_drop]
  simp

end KeyJoin
