import KeyJoin.Proofs.FurtherSelects
import KeyJoin.Proofs.QualifiedNames

/-!
# Queries put into words again

A query can be put into words from what was resolved: the qualified names of its
fields in the spelling of the columns, its relations and the text of its
condition.  The statement is recognized again, with the same relations, the same
condition and the same key condition.  Its fields are bound as before, but for
a relation joined with itself: there a qualified name means the left side, so a
field of the right side is not found again.
-/

namespace KeyJoin

def JoinQuery.restated (query : JoinQuery) : String :=
  "SELECT " ++ query.projection.label ++ " FROM " ++ query.leftRelation ++ " INNER JOIN " ++
    query.rightRelation ++ " ON " ++ query.conditionText

variable {columns : ColumnNames} {statement : String} {query : JoinQuery}
  {list rest condition : List TokenKind} {left right : List Char}

/-! ## The grammar of the statement -/

/-- The kinds can stand before a join clause and hold no part of one themselves. -/
structure IsSelectList (list : List TokenKind) : Prop where
  nonempty : list ≠ []
  separated : list.IsChain SeparatedPair
  single : .semicolon ∉ list

/-- The kinds can stand behind a join clause. -/
structure IsCondition (condition : List TokenKind) : Prop where
  nonempty : condition ≠ []
  single : .semicolon ∉ condition
  twoRelations : ∀ kind ∈ condition, kind.isKeyword .join = false ∧ kind.isKeyword .on = false

def clauseKinds (left right : List Char) : List TokenKind :=
  [.word Keyword.fromClause.letters, .word left, .word Keyword.inner.letters,
    .word Keyword.join.letters, .word right, .word Keyword.on.letters]

theorem joinsAt_clauseKinds (hcondition : condition ≠ []) (left right : List Char) :
    JoinsAt (clauseKinds left right ++ condition) 0 left right :=
  { fromClause := Keyword.fromClause.isKeyword_letters
    left := rfl
    inner := Keyword.inner.isKeyword_letters
    join := Keyword.join.isKeyword_letters
    right := rfl
    on := Keyword.on.isKeyword_letters
    condition := by simpa [clauseKinds] using List.length_pos_iff.mpr hcondition }

theorem not_separatedPair_word (a b : List Char) : ¬ SeparatedPair (.word a) (.word b) := by
  rintro ((h | h) | (h | h)) <;> cases h

/-- No clause begins in a list that has a comma or a dot in every second place. -/
theorem not_joinsAt_of_isChain (hchain : list.IsChain SeparatedPair)
    (hrest : JoinsAt rest 0 left right) {position : Nat} (hposition : position < list.length)
    (other another : List Char) : ¬ JoinsAt (list ++ rest) position other another := by
  intro hjoins
  by_cases hnext : position + 1 < list.length
  · -- its `FROM` and its left relation would be two words next to each other
    obtain ⟨text, hfrom, -⟩ := any_isKeyword_iff.mp hjoins.fromClause
    have hleft := hjoins.left
    rw [List.getElem?_append_left hposition, List.getElem?_eq_getElem hposition,
      Option.some.injEq] at hfrom
    rw [List.getElem?_append_left hnext, List.getElem?_eq_getElem hnext, Option.some.injEq] at hleft
    have hpair := List.isChain_iff_getElem.mp hchain position hnext
    rw [hfrom, hleft] at hpair
    exact not_separatedPair_word text other hpair
  · -- its `JOIN` would stand where the clause behind the list has its `INNER`
    have hjoin := hjoins.join
    rw [List.getElem?_append_right (by omega),
      show position + 3 - list.length = 0 + 2 by omega] at hjoin
    exact absurd (eq_of_any_isKeyword hjoin hrest.inner) (by decide)

/-- A select list before what stands behind the select list of a join statement. -/
theorem IsSelectList.isJoinStatement {select : TokenKind} (hlist : IsSelectList list)
    (hselect : select.isKeyword .select = true) (hrest : JoinsAt rest 0 left right)
    (hsingle : .semicolon ∉ rest)
    (htwo : ∀ kind ∈ rest.drop 6, kind.isKeyword .join = false ∧ kind.isKeyword .on = false) :
    IsJoinStatement (select :: (list ++ rest)) (1 + list.length) left right := by
  have hjoins (position : Nat) (other another : List Char) :
      JoinsAt (select :: (list ++ rest)) (1 + position) other another ↔
        JoinsAt (list ++ rest) position other another :=
    (joinsAt_drop 1).symm
  refine ⟨?_, hselect, ?_, ?_, ?_, ?_⟩
  · rintro hmem
    rcases List.mem_cons.mp hmem with rfl | hmem
    · cases hselect
    · exact (List.mem_append.mp hmem).elim hlist.single hsingle
  · have hlength := List.length_pos_iff.mpr hlist.nonempty
    omega
  · rw [hjoins, ← Nat.add_zero list.length, ← joinsAt_drop, List.drop_left]
    exact hrest
  · intro earlier hge hlt other another hearlier
    obtain ⟨position, rfl⟩ := Nat.exists_eq_add_of_le (show 1 ≤ earlier by omega)
    rw [hjoins] at hearlier
    exact not_joinsAt_of_isChain hlist.separated hrest (by omega) other another hearlier
  · intro kind hkind
    have hdrop : (select :: (list ++ rest)).drop (1 + list.length + 6) = rest.drop 6 := by
      rw [Nat.add_assoc, ← List.drop_drop, ← List.drop_drop]
      simp
    rw [hdrop] at hkind
    exact htwo kind hkind

theorem IsSelectList.isJoinStatement_clauseKinds (hlist : IsSelectList list)
    (hcondition : IsCondition condition) (left right : List Char) :
    IsJoinStatement
      (.word Keyword.select.letters :: (list ++ (clauseKinds left right ++ condition)))
      (1 + list.length) left right :=
  hlist.isJoinStatement Keyword.select.isKeyword_letters
    (joinsAt_clauseKinds hcondition.nonempty left right)
    (by simpa [clauseKinds] using hcondition.single) hcondition.twoRelations

theorem isSelectList_fieldKinds {fields : List ResolvedField} (hne : fields ≠ []) :
    IsSelectList (fieldKinds fields) := by
  refine ⟨?_, isChain_fieldKinds hne, semicolon_not_mem_fieldKinds fields⟩
  intro hnil
  have hlength := three_le_length_fieldKinds hne
  rw [hnil] at hlength
  simp at hlength

/-! ## Recognition of the statement -/

/-- The label of a query that is not refused is a select list for its projection. -/
theorem isSelectList_label (h : recognizeJoin? columns statement = some query)
    (hvalid : query.projection.IsValid) :
    IsSelectList (kindsOf query.projection.label.toList) ∧
    ∀ selectList : List Token,
      selectList.map Token.kind = kindsOf query.projection.label.toList →
      let scope : JoinScope := ⟨columns, query.leftRelation, query.rightRelation⟩
      let hides := HidesField query.leftRelation query.rightRelation query.projection.fields
      (hides → ∃ name fault suggestion,
        scope.projection selectList = .invalid name fault suggestion) ∧
      (¬ hides → scope.projection selectList = query.projection) := by
  rcases projection_cases_of_isValid h hvalid with hall | ⟨fields, hne, hfields, hbound⟩
  · have hstar : kindsOf (Projection.label .all).toList = [.star] := by
      decide +kernel
    rw [hall, hstar]
    refine ⟨⟨by simp, .singleton _, by simp⟩, fun selectList hkinds => ⟨?_, fun _ => ?_⟩⟩
    · rintro ⟨-, field, hfield, -⟩
      cases hfield
    · simp only [JoinScope.projection, if_pos hkinds]
  · obtain ⟨hleft, hright⟩ := relations_isLexeme_of_recognizeJoin? h
    have hlabel := kindsOf_label hbound hleft hright
    rw [hfields, fields_projectionOfFields, hlabel]
    exact ⟨isSelectList_fieldKinds hne,
      fun selectList hkinds => projection_of_fieldKinds hne hbound hkinds⟩

theorem isCondition_conditionText (h : recognizeJoin? columns statement = some query) :
    IsCondition (kindsOf query.conditionText.toList) := by
  obtain ⟨index, hcut⟩ := exists_cutFrom_of_recognizeJoin? h
  have hlength := hcut.isStatement.joins.condition
  rw [hcut.condition]
  refine ⟨?_, fun hmem => ?_, hcut.isStatement.twoRelations⟩
  · rw [Ne, List.drop_eq_nil_iff]
    omega
  · exact hcut.isStatement.single (List.mem_of_mem_drop hmem)

/-- All of the statement before its condition. -/
def JoinQuery.restatedFront (query : JoinQuery) : List Char :=
  Keyword.select.letters ++ ([' '] ++ (query.projection.label.toList ++ ([' '] ++
    (Keyword.fromClause.letters ++ ([' '] ++ (query.leftRelation.toList ++ ([' '] ++
      (Keyword.inner.letters ++ ([' '] ++ (Keyword.join.letters ++ ([' '] ++
        (query.rightRelation.toList ++ ([' '] ++ Keyword.on.letters)))))))))))))

theorem JoinQuery.toList_restated (query : JoinQuery) :
    query.restated.toList =
      query.restatedFront ++ ([' '] ++ query.conditionText.toList) := by
  simp only [restated, restatedFront, String.toList_append, List.append_assoc]
  rfl

theorem JoinQuery.kindsOf_restatedFront (query : JoinQuery)
    (hleft : (TokenKind.word query.leftRelation.toList).IsLexeme)
    (hright : (TokenKind.word query.rightRelation.toList).IsLexeme) :
    kindsOf query.restatedFront =
      .word Keyword.select.letters :: (kindsOf query.projection.label.toList ++
        clauseKinds query.leftRelation.toList query.rightRelation.toList) := by
  have hspace (a text : List Char) : kindsOf (a ++ ([' '] ++ text)) = kindsOf a ++ kindsOf text :=
    kindsOf_append_blank_append a isBlankText_space (by simp) text
  have hkeyword (keyword : Keyword) : kindsOf keyword.letters = [.word keyword.letters] :=
    kindsOf_word keyword.isLexeme_letters
  rw [restatedFront, hspace, hspace, hspace, hspace, hspace, hspace, hspace, hkeyword, hkeyword,
    hkeyword, hkeyword, hkeyword, kindsOf_word hleft, kindsOf_word hright]
  rfl

theorem JoinQuery.length_tokenize_restatedFront (query : JoinQuery)
    (hleft : (TokenKind.word query.leftRelation.toList).IsLexeme)
    (hright : (TokenKind.word query.rightRelation.toList).IsLexeme) :
    (tokenize query.restatedFront).length =
      1 + (kindsOf query.projection.label.toList).length + 6 := by
  have hcount := congrArg List.length (query.kindsOf_restatedFront hleft hright)
  simp only [kindsOf, List.length_map, List.length_cons, List.length_append, clauseKinds,
    List.length_nil] at hcount ⊢
  omega

/-- The tokens of the condition where it stands in the statement. -/
def JoinQuery.restatedCondition (query : JoinQuery) : List Token :=
  tokensFrom (byteLength (query.restatedFront ++ [' '])) query.conditionText.toList

theorem JoinQuery.map_kind_restatedCondition (query : JoinQuery) :
    query.restatedCondition.map Token.kind = kindsOf query.conditionText.toList :=
  (layout_tokensFrom _ _).kindsOf_eq.symm

theorem JoinQuery.tokenize_restated (query : JoinQuery) :
    tokenize query.restated.toList =
      tokenize query.restatedFront ++ query.restatedCondition := by
  rw [query.toList_restated, tokenize_append_blank_append _ isBlankText_space (by simp)]
  rfl

theorem JoinQuery.kindsOf_restated (query : JoinQuery)
    (hleft : (TokenKind.word query.leftRelation.toList).IsLexeme)
    (hright : (TokenKind.word query.rightRelation.toList).IsLexeme) :
    kindsOf query.restated.toList =
      .word Keyword.select.letters :: (kindsOf query.projection.label.toList ++
        (clauseKinds query.leftRelation.toList query.rightRelation.toList ++
          kindsOf query.conditionText.toList)) := by
  rw [query.toList_restated, kindsOf_append_blank_append _ isBlankText_space (by simp),
    query.kindsOf_restatedFront hleft hright]
  simp

theorem spanText_restatedCondition (h : recognizeJoin? columns statement = some query) :
    spanText query.restated.toList query.restatedCondition = query.conditionText.toList := by
  obtain ⟨-, -, -, hunpadded⟩ := writtenIn_of_recognizeJoin? h
  have hne : query.restatedCondition ≠ [] := by
    have hcondition := (isCondition_conditionText h).nonempty
    rw [← query.map_kind_restatedCondition] at hcondition
    simpa using hcondition
  have htext : query.restated.toList =
      query.restatedFront ++ [' '] ++ (query.conditionText.toList ++ []) := by
    rw [query.toList_restated, List.append_nil, List.append_assoc]
  rw [htext]
  exact spanText_of_layout (layout_tokensFrom _ _) hunpadded hne []

/-- The statement is split behind its label, whatever the words of the label are. -/
theorem exists_recognizeJoin?_restated (h : recognizeJoin? columns statement = some query)
    (hvalid : query.projection.IsValid) :
    ∃ selectList : List Token,
      selectList.map Token.kind = kindsOf query.projection.label.toList ∧
      recognizeJoin? columns query.restated =
        some (JoinStatement.toQuery columns query.restated.toList
          ⟨selectList, ⟨query.leftRelation.toList, query.rightRelation.toList,
            query.restatedCondition⟩⟩) := by
  obtain ⟨hleft, hright⟩ := relations_isLexeme_of_recognizeJoin? h
  have hlength := query.length_tokenize_restatedFront hleft hright
  have hkinds := query.kindsOf_restated hleft hright
  have hstatement := (isSelectList_label h hvalid).1.isJoinStatement_clauseKinds
    (isCondition_conditionText h) query.leftRelation.toList query.rightRelation.toList
  generalize kindsOf query.projection.label.toList = list at hlength hkinds hstatement ⊢
  rw [← hkinds] at hstatement
  have hbody : withoutFinalSemicolon (tokenize query.restated.toList) =
      tokenize query.restated.toList :=
    withoutFinalSemicolon_of_not_mem hstatement.single
  rw [← bodyKinds_of_not_mem hstatement.single] at hstatement
  have hquery := hstatement.recognizeJoin?_eq columns
  have hselectList : (((tokenize query.restated.toList).take (1 + list.length)).drop 1).map
      Token.kind = list := by
    rw [List.map_drop, List.map_take]
    change ((kindsOf query.restated.toList).take (1 + list.length)).drop 1 = list
    rw [hkinds, Nat.add_comm 1, List.take_succ_cons, List.drop_one, List.tail_cons, List.take_left]
  have hcondition : (tokenize query.restated.toList).drop (1 + list.length + 6) =
      query.restatedCondition := by
    rw [query.tokenize_restated, List.drop_left' hlength]
  exact ⟨_, hselectList, by rw [hquery, hbody, hcondition]⟩

/-- A query that is not refused is recognized again from its words, and nothing but a hidden field
is lost. -/
theorem recognizeJoin?_restated (columns : ColumnNames) (statement : String) (query : JoinQuery)
    (h : recognizeJoin? columns statement = some query) (hvalid : query.projection.IsValid) :
    ∃ rebuilt, recognizeJoin? columns query.restated = some rebuilt ∧
      rebuilt.leftRelation = query.leftRelation ∧ rebuilt.rightRelation = query.rightRelation ∧
      rebuilt.conditionText = query.conditionText ∧
      rebuilt.keyCondition? = query.keyCondition? ∧
      (HidesField query.leftRelation query.rightRelation query.projection.fields →
        ∃ name fault suggestion, rebuilt.projection = .invalid name fault suggestion) ∧
      (¬ HidesField query.leftRelation query.rightRelation query.projection.fields →
        rebuilt.projection = query.projection) := by
  obtain ⟨selectList, hlist, hrebuilt⟩ := exists_recognizeJoin?_restated h hvalid
  have hprojection := (isSelectList_label h hvalid).2 selectList hlist
  have hcondition : keyCondition? query.restatedCondition = query.keyCondition? := by
    rw [keyCondition?_of_recognizeJoin? h]
    exact keyCondition?_congr query.map_kind_restatedCondition
  refine ⟨_, hrebuilt, ?_, ?_, ?_, hcondition, ?_⟩
  · exact String.ofList_toList
  · exact String.ofList_toList
  · simp only [JoinStatement.toQuery, spanText_restatedCondition h, String.ofList_toList]
  · simpa only [JoinStatement.toQuery, String.ofList_toList] using hprojection

/-- Relations named like keywords with columns in another spelling, and a field on the right side of
a relation joined with itself. -/
theorem recognizeJoin?_restated_of_keyword_names :
    (∃ query rebuilt : JoinQuery,
      recognizeJoin? ⟨["Id", "Name", "id"], ["id", "AGE"]⟩
        "select NAME , from.ID, age from From inner join ON on a.id = b . id;" = some query ∧
      query.restated =
        "SELECT From.Name, From.Id, ON.AGE FROM From INNER JOIN ON ON a.id = b . id" ∧
      recognizeJoin? ⟨["Id", "Name", "id"], ["id", "AGE"]⟩ query.restated = some rebuilt ∧
      rebuilt.conditionText = "a.id = b . id" ∧
      rebuilt.keyCondition? = some ⟨⟨some "a", "id"⟩, ⟨some "b", "id"⟩⟩ ∧
      rebuilt.projection =
        .several [⟨"From", "Name", .left, 1⟩, ⟨"From", "Id", .left, 0⟩, ⟨"ON", "AGE", .right, 1⟩]) ∧
    ∃ query rebuilt : JoinQuery,
      recognizeJoin? {} "SELECT age FROM a INNER JOIN A ON 1" = some query ∧
      query.restated = "SELECT A.age FROM a INNER JOIN A ON 1" ∧
      recognizeJoin? {} query.restated = some rebuilt ∧
      ∃ name fault suggestion, rebuilt.projection = .invalid name fault suggestion := by
  have hnames : recognizeJoin? ⟨["Id", "Name", "id"], ["id", "AGE"]⟩
      "select NAME , from.ID, age from From inner join ON on a.id = b . id;" =
        some
          { projection := .several
              [⟨"From", "Name", .left, 1⟩, ⟨"From", "Id", .left, 0⟩, ⟨"ON", "AGE", .right, 1⟩]
            fieldsText := "NAME , from.ID, age"
            leftRelation := "From"
            rightRelation := "ON"
            conditionText := "a.id = b . id"
            keyCondition? := some ⟨⟨some "a", "id"⟩, ⟨some "b", "id"⟩⟩ } := by
    decide +kernel
  have hself : recognizeJoin? {} "SELECT age FROM a INNER JOIN A ON 1" =
      some
        { projection := .single ⟨"A", "age", .right, 1⟩
          fieldsText := "age"
          leftRelation := "a"
          rightRelation := "A"
          conditionText := "1"
          keyCondition? := none } := by
    decide +kernel
  obtain ⟨rebuilt, hrebuilt, -, -, hcondition, hkey, -, hprojection⟩ :=
    recognizeJoin?_restated _ _ _ hnames (by rintro field fault suggestion ⟨⟩)
  obtain ⟨rebuilt', hrebuilt', -, -, -, -, hinvalid, -⟩ :=
    recognizeJoin?_restated _ _ _ hself (by rintro field fault suggestion ⟨⟩)
  refine ⟨⟨_, rebuilt, hnames, by decide +kernel, hrebuilt, hcondition, hkey, hprojection ?_⟩,
    ⟨_, rebuilt', hself, by decide +kernel, hrebuilt', hinvalid ?_⟩⟩
  · rintro ⟨hsame, -⟩
    revert hsame
    decide
  · exact ⟨by decide, ⟨"A", "age", .right, 1⟩, List.mem_singleton.mpr rfl, rfl⟩

end KeyJoin
