import KeyJoin.Proofs.StatementText

/-!
# The comma join of a recognized statement

The comma join of a query has the tokens of the select list between `SELECT`
and `FROM`, then the two relations with a comma, then its only semicolon.  It
is never recognized again.  A join clause in it would either stand as a whole
before its comma, and then stood in the first statement too, at an earlier
position than the one at which that statement was split; or it would have the
comma in the place of the keyword `ON`.
-/

namespace KeyJoin

variable {kinds : List TokenKind} {index : Nat} {left right : List Char}

/-! ## Tokens of the comma join -/

def commaJoinKinds (selectList : List TokenKind) (left right : List Char) : List TokenKind :=
  .word Keyword.select.letters ::
    (selectList ++
      [.word Keyword.fromClause.letters, .word left, .comma, .word right, .semicolon])

theorem Keyword.isLexeme_letters (keyword : Keyword) :
    (TokenKind.word keyword.letters).IsLexeme := by
  have hletters : keyword.letters.all (fun c => !isBlank c && isWordCharacter c) = true := by
    cases keyword <;> decide
  refine ⟨by cases keyword <;> decide, fun c hc => ?_⟩
  simpa using List.all_eq_true.mp hletters c hc

theorem Keyword.isKeyword_letters (keyword : Keyword) :
    (TokenKind.word keyword.letters).isKeyword keyword = true := by
  cases keyword <;> decide

theorem isBlankText_space : IsBlankText [' '] := by
  simp only [IsBlankText, List.mem_singleton, forall_eq]
  decide

theorem JoinQuery.commaJoin_toList (query : JoinQuery) :
    query.commaJoin.toList =
      Keyword.select.letters ++ ([' '] ++ (query.fieldsText.toList ++ ([' '] ++
        (Keyword.fromClause.letters ++ ([' '] ++ (query.leftRelation.toList ++
          (',' :: ([' '] ++ (query.rightRelation.toList ++ [';']))))))))) := by
  simp [JoinQuery.commaJoin, String.toList_append, Keyword.letters]

theorem JoinQuery.kindsOf_commaJoin (query : JoinQuery)
    (hleft : (TokenKind.word query.leftRelation.toList).IsLexeme)
    (hright : (TokenKind.word query.rightRelation.toList).IsLexeme) :
    kindsOf query.commaJoin.toList =
      commaJoinKinds (kindsOf query.fieldsText.toList) query.leftRelation.toList
        query.rightRelation.toList := by
  have hspace (a text : List Char) : kindsOf (a ++ ([' '] ++ text)) = kindsOf a ++ kindsOf text :=
    kindsOf_append_blank_append a isBlankText_space (by simp) text
  have hcomma (a text : List Char) :
      kindsOf (a ++ ',' :: text) = kindsOf a ++ .comma :: kindsOf text :=
    kindsOf_append_mark_cons a (by decide) (by decide) text
  have hsemicolon (a : List Char) : kindsOf (a ++ [';']) = kindsOf a ++ [.semicolon] :=
    kindsOf_append_mark_cons a (by decide) (by decide) []
  rw [query.commaJoin_toList, hspace, hspace, hspace, hcomma,
    kindsOf_blank_append isBlankText_space, hsemicolon,
    kindsOf_word Keyword.select.isLexeme_letters,
    kindsOf_word Keyword.fromClause.isLexeme_letters, kindsOf_word hleft, kindsOf_word hright]
  rfl

/-! ## The comma join is no join -/

/-- Two positions that read the same, or the same keyword. -/
def ReadAlike (a b : Option TokenKind) : Prop :=
  a = b ∨ ∃ keyword, a.any (TokenKind.isKeyword keyword) = true ∧
    b.any (TokenKind.isKeyword keyword) = true

theorem ReadAlike.any_isKeyword {a b : Option TokenKind} (h : ReadAlike a b) {keyword : Keyword}
    (ha : a.any (TokenKind.isKeyword keyword) = true) :
    b.any (TokenKind.isKeyword keyword) = true := by
  rcases h with rfl | ⟨other, hother, hb⟩
  · exact ha
  · obtain ⟨text, rfl, hletters⟩ := any_isKeyword_iff.mp ha
    obtain ⟨text', htext, hother⟩ := any_isKeyword_iff.mp hother
    obtain ⟨word, rfl, hword⟩ := any_isKeyword_iff.mp hb
    cases htext
    exact any_isKeyword_iff.mpr ⟨word, rfl, by rw [hword, ← hother, hletters]⟩

theorem ReadAlike.exists_word {a b : Option TokenKind} (h : ReadAlike a b) {word : List Char}
    (ha : a = some (.word word)) : ∃ word, b = some (.word word) := by
  rcases h with rfl | ⟨keyword, -, hb⟩
  · exact ⟨word, ha⟩
  · obtain ⟨text, htext, -⟩ := any_isKeyword_iff.mp hb
    exact ⟨text, htext⟩

theorem JoinsAt.of_readAlike {kinds' : List TokenKind} {position : Nat}
    (h : JoinsAt kinds position left right)
    (halike : ∀ place, position ≤ place → place ≤ position + 5 →
      ReadAlike kinds[place]? kinds'[place]?)
    (hlength : position + 6 < kinds'.length) :
    ∃ left right, JoinsAt kinds' position left right := by
  obtain ⟨left', hleft⟩ := (halike (position + 1) (by omega) (by omega)).exists_word h.left
  obtain ⟨right', hright⟩ := (halike (position + 4) (by omega) (by omega)).exists_word h.right
  exact ⟨left', right',
    { fromClause := (halike position (by omega) (by omega)).any_isKeyword h.fromClause
      left := hleft
      inner := (halike (position + 2) (by omega) (by omega)).any_isKeyword h.inner
      join := (halike (position + 3) (by omega) (by omega)).any_isKeyword h.join
      right := hright
      on := (halike (position + 5) (by omega) (by omega)).any_isKeyword h.on
      condition := hlength }⟩

/-- The comma join up to its semicolon agrees with the statement it comes from up to the left
relation, and has its comma behind that. -/
theorem IsJoinStatement.commaJoin_getElem? (h : IsJoinStatement kinds index left right) :
    let body := bodyKinds (commaJoinKinds ((kinds.take index).drop 1) left right)
    body.length = index + 4 ∧ body[index + 2]? = some .comma ∧
      ∀ place, 1 ≤ place → place ≤ index + 1 → ReadAlike body[place]? kinds[place]? := by
  intro body
  have hlength := h.joins.condition
  have hle := h.selectList
  have hbody : body = .word Keyword.select.letters :: (kinds.take index).drop 1 ++
      [.word Keyword.fromClause.letters, .word left, .comma, .word right] := by
    simp [body, bodyKinds, commaJoinKinds, List.getLast?_cons, List.dropLast_cons_of_ne_nil]
  have hfront : (TokenKind.word Keyword.select.letters :: (kinds.take index).drop 1).length =
      index := by
    simp only [List.length_cons, List.length_drop, List.length_take]
    omega
  refine ⟨?_, ?_, fun place hpos hplace => ?_⟩
  · rw [hbody, List.length_append, hfront]
    rfl
  · rw [hbody, List.getElem?_append_right (by omega), hfront]
    simp
  · rcases Nat.lt_trichotomy place index with hlt | rfl | hgt
    · left
      obtain ⟨place, rfl⟩ := Nat.exists_eq_add_of_le' hpos
      rw [hbody, List.getElem?_append_left (by omega), List.getElem?_cons_succ,
        List.getElem?_drop, List.getElem?_take_of_lt (by omega), Nat.add_comm]
    · right
      refine ⟨.fromClause, ?_, h.joins.fromClause⟩
      rw [hbody, List.getElem?_append_right (by omega), hfront]
      simp [TokenKind.isKeyword, Keyword.letters]
    · left
      obtain rfl : place = index + 1 := by omega
      rw [hbody, List.getElem?_append_right (by omega), hfront, h.joins.left]
      simp

theorem IsJoinStatement.not_commaJoin (h : IsJoinStatement kinds index left right)
    (position : Nat) (other another : List Char) :
    ¬ IsJoinStatement (bodyKinds (commaJoinKinds ((kinds.take index).drop 1) left right))
      position other another := by
  intro hcomma
  obtain ⟨hlength, hmark, halike⟩ := h.commaJoin_getElem?
  have hposition := hcomma.joins.condition
  have hstart := hcomma.selectList
  have hcondition := h.joins.condition
  rw [hlength] at hposition
  by_cases hwhole : position + 5 ≤ index + 1
  · -- a clause that ends before the comma stands in the statement, too early for its split
    obtain ⟨left', right', hearlier⟩ := hcomma.joins.of_readAlike
      (fun place hge hle => halike place (by omega) (by omega)) (by omega)
    exact h.least position hstart (by omega) left' right' hearlier
  · -- a later one would need its `ON` where the comma is
    have hon := hcomma.joins.on
    rw [show position + 5 = index + 2 by omega, hmark] at hon
    cases hon

/-! ## Recognized statements -/

/-- The tokens of the comma join of a recognized statement are those of the statement's select
list, put between the words that the comma join adds. -/
theorem kindsOf_commaJoin_of_recognizeJoin? {columns : ColumnNames} {statement : String}
    {query : JoinQuery} (h : recognizeJoin? columns statement = some query) :
    ∃ index,
      IsJoinStatement (bodyKinds (kindsOf statement.toList)) index
        query.leftRelation.toList query.rightRelation.toList ∧
      kindsOf query.commaJoin.toList =
        commaJoinKinds (((bodyKinds (kindsOf statement.toList)).take index).drop 1)
          query.leftRelation.toList query.rightRelation.toList := by
  obtain ⟨index, left, right, parts, ending, hread, rfl⟩ := exists_read_of_recognizeJoin? h
  refine ⟨index, by simpa [JoinStatement.toQuery] using hread.isStatement, ?_⟩
  rw [JoinQuery.kindsOf_commaJoin _ (by simpa [JoinStatement.toQuery] using hread.leftLexeme)
    (by simpa [JoinStatement.toQuery] using hread.rightLexeme), ← hread.fields,
    ← hread.span_selectList.1]
  simp [JoinStatement.toQuery]

theorem recognizeJoin?_commaJoin_eq_none {columns : ColumnNames} {statement : String}
    {query : JoinQuery} (h : recognizeJoin? columns statement = some query)
    (columns' : ColumnNames) : recognizeJoin? columns' query.commaJoin = none := by
  obtain ⟨index, hstatement, hkinds⟩ := kindsOf_commaJoin_of_recognizeJoin? h
  rw [← Option.not_isSome_iff_eq_none, recognizeJoin?_isSome_iff, hkinds]
  rintro ⟨position, left, right, hcomma⟩
  exact hstatement.not_commaJoin position left right hcomma

/-- The comma join of a statement is one plain statement about the same select list and the same
relations, and no join. -/
theorem commaJoin_plain (columns : ColumnNames) (statement : String) (query : JoinQuery)
    (h : recognizeJoin? columns statement = some query) :
    (∃ index,
      IsJoinStatement (bodyKinds (kindsOf statement.toList)) index
        query.leftRelation.toList query.rightRelation.toList ∧
      kindsOf query.commaJoin.toList =
        [.word Keyword.select.letters] ++
          ((bodyKinds (kindsOf statement.toList)).take index).drop 1 ++
          [.word Keyword.fromClause.letters, .word query.leftRelation.toList, .comma,
            .word query.rightRelation.toList, .semicolon]) ∧
    (kindsOf query.commaJoin.toList).count .semicolon = 1 ∧
    (kindsOf query.commaJoin.toList).getLast? = some .semicolon ∧
    ∀ columns', recognizeJoin? columns' query.commaJoin = none := by
  obtain ⟨index, hstatement, hkinds⟩ := kindsOf_commaJoin_of_recognizeJoin? h
  have hnone : TokenKind.semicolon ∉
      ((bodyKinds (kindsOf statement.toList)).take index).drop 1 := by
    intro hmem
    exact hstatement.single (List.mem_of_mem_take (List.mem_of_mem_drop hmem))
  refine ⟨⟨index, hstatement, ?_⟩, ?_, ?_, recognizeJoin?_commaJoin_eq_none h⟩
  · rw [hkinds]
    simp [commaJoinKinds]
  · rw [hkinds]
    simpa [commaJoinKinds, List.count_cons, List.count_eq_zero] using hnone
  · rw [hkinds]
    simp [commaJoinKinds, List.getLast?_cons]

/-- The select list breaks off a join clause of its own, and the left relation is named like the
keyword that would complete another one. -/
theorem commaJoin_plain_of_keyword_relation :
    ∃ query : JoinQuery,
      recognizeJoin? {} "select x from a inner join, FROM ON INNER JOIN b ON 1" = some query ∧
      query.commaJoin = "SELECT x from a inner join, FROM ON, b;" ∧
      (kindsOf query.commaJoin.toList).count .semicolon = 1 ∧
      (kindsOf query.commaJoin.toList).getLast? = some .semicolon ∧
      ∀ columns', recognizeJoin? columns' query.commaJoin = none := by
  have hquery : recognizeJoin? {} "select x from a inner join, FROM ON INNER JOIN b ON 1" =
      some
        { projection := .invalid "xfromainnerjoin" .unsupportedExpression none
          fieldsText := "x from a inner join,"
          leftRelation := "ON"
          rightRelation := "b"
          conditionText := "1"
          keyCondition? := none } := by
    decide +kernel
  exact ⟨_, hquery, by decide +kernel, (commaJoin_plain _ _ _ hquery).2⟩

end KeyJoin
