import KeyJoin.Proofs.PrintedLines
import KeyJoin.Proofs.ResolvedItems
import KeyJoin.Proofs.RestatedQuery

/-!
# The star and the list of all columns

A star keeps the cells of a joined row as they are, and a select list that names
every column of the join looks a cell up for each of them.  When the columns of
a side have different names and every joined row is filled, a cell for each
column, the two select lists print the same.  The statements with the one and
with the other are recognized alike, whatever words the names are, since the
relations and the condition stand behind either list in the same way.
-/

namespace KeyJoin

/-- The names can be written in a statement, and none of them is taken for another. -/
@[mk_iff]
structure AreDistinctWords (names : List String) : Prop where
  nonempty : names ≠ []
  words : ∀ name ∈ names, (TokenKind.word name.toList).IsLexeme
  distinct : names.Pairwise fun a b => sameIgnoringCase a b = false

instance : DecidablePred AreDistinctWords :=
  fun names => decidable_of_iff
    (names ≠ [] ∧ names.all (fun name => (TokenKind.word name.toList).IsLexeme) = true ∧
      names.Pairwise fun a b => sameIgnoringCase a b = false)
    (by simp [areDistinctWords_iff])

/-- Every column of the join has a qualified name that means this column. -/
structure JoinScope.IsDistinct (scope : JoinScope) : Prop where
  left : (TokenKind.word scope.left.toList).IsLexeme
  right : (TokenKind.word scope.right.toList).IsLexeme
  apart : sameIgnoringCase scope.left scope.right = false
  columns : ∀ side, AreDistinctWords (scope.columns.onSide side)

def JoinScope.fieldsOf (scope : JoinScope) (side : Side) : List ResolvedField :=
  (scope.columns.onSide side).mapIdx fun position column =>
    ⟨scope.relation side, column, side, position⟩

def JoinScope.allFields (scope : JoinScope) : List ResolvedField :=
  scope.fieldsOf .left ++ scope.fieldsOf .right

/-- The select list that names every column of the join, those of the left side first. -/
def JoinScope.columnList (scope : JoinScope) : String :=
  String.intercalate ", " scope.candidates

def joinText (selectList left right condition : String) : String :=
  "SELECT " ++ selectList ++ " FROM " ++ left ++ " INNER JOIN " ++ right ++ " ON " ++ condition

/-- The text without a semicolon at its end and without white space around the rest. -/
def bodyText (text : String) : String :=
  String.ofList (spanText text.toList (withoutFinalSemicolon (tokenize text.toList)))

/-- Both rows have a cell for each column of their side, and no further one. -/
structure JoinedRow.Fills (row : JoinedRow) (columns : ColumnNames) : Prop where
  left : row.left.cells.length = columns.left.length
  right : row.right.cells.length = columns.right.length

def Outcome.withoutProjection (outcome : Outcome) : Outcome :=
  { outcome with projection := "" }

variable {columns : ColumnNames} {scope : JoinScope} {query : JoinQuery}
  {names : List String} {field : ResolvedField} {position : Nat} {column : String}

/-! ## Fields for all columns -/

theorem AreDistinctWords.isFirstNamed (h : AreDistinctWords names)
    (hcolumn : names[position]? = some column) : IsFirstNamed names column position column := by
  refine ⟨hcolumn, sameIgnoringCase_refl column, fun earlier hearlier other hother => ?_⟩
  obtain ⟨hposition, rfl⟩ := List.getElem?_eq_some_iff.mp hcolumn
  obtain ⟨hbefore, rfl⟩ := List.getElem?_eq_some_iff.mp hother
  exact List.pairwise_iff_getElem.mp h.distinct earlier position hbefore hposition hearlier

theorem JoinScope.map_fieldsOf {α : Type} (f : ResolvedField → α) (scope : JoinScope)
    (side : Side) :
    (scope.fieldsOf side).map f =
      (scope.columns.onSide side).mapIdx fun position column =>
        f ⟨scope.relation side, column, side, position⟩ := by
  apply List.ext_getElem <;> simp [JoinScope.fieldsOf]

theorem JoinScope.exists_of_mem_allFields (h : field ∈ scope.allFields) :
    ∃ side position column, (scope.columns.onSide side)[position]? = some column ∧
      field = ⟨scope.relation side, column, side, position⟩ := by
  have hside : ∃ side, field ∈ scope.fieldsOf side :=
    (List.mem_append.mp h).elim (fun hleft => ⟨.left, hleft⟩) (fun hright => ⟨.right, hright⟩)
  obtain ⟨side, hside⟩ := hside
  obtain ⟨position, hposition, rfl⟩ := List.mem_mapIdx.mp hside
  exact ⟨side, position, _, List.getElem?_eq_getElem hposition, rfl⟩

theorem JoinScope.IsDistinct.boundIn (h : scope.IsDistinct) (hfield : field ∈ scope.allFields) :
    field.BoundIn scope := by
  obtain ⟨side, position, column, hcolumn, rfl⟩ := JoinScope.exists_of_mem_allFields hfield
  have hfirst := (h.columns side).isFirstNamed hcolumn
  refine ⟨rfl, findColumn?_eq_some_iff.mpr hfirst, (h.columns side).words _ hfirst.mem, ?_⟩
  intro _ hself
  rw [h.apart] at hself
  cases hself

theorem JoinScope.map_qualifiedName_allFields (scope : JoinScope) :
    scope.allFields.map ResolvedField.qualifiedName = scope.candidates := by
  have hside (side : Side) : (scope.fieldsOf side).map ResolvedField.qualifiedName =
      (scope.columns.onSide side).map fun column => scope.relation side ++ "." ++ column := by
    rw [scope.map_fieldsOf]
    apply List.ext_getElem <;> simp [ResolvedField.qualifiedName]
  rw [JoinScope.allFields, List.map_append, hside, hside]
  rfl

theorem JoinScope.IsDistinct.two_le_length_allFields (h : scope.IsDistinct) :
    2 ≤ scope.allFields.length := by
  have hleft := List.length_pos_iff.mpr (h.columns .left).nonempty
  have hright := List.length_pos_iff.mpr (h.columns .right).nonempty
  simp only [JoinScope.allFields, JoinScope.fieldsOf, List.length_append, List.length_mapIdx]
  omega

/-- The list of all columns is a select list, and it is resolved to a field for each of them. -/
theorem JoinScope.IsDistinct.projection_columnList (h : scope.IsDistinct) :
    IsSelectList (kindsOf scope.columnList.toList) ∧
    ∀ selectList : List Token,
      selectList.map Token.kind = kindsOf scope.columnList.toList →
        scope.projection selectList = .several scope.allFields := by
  have hseveral := projectionOfFields_eq_several h.two_le_length_allFields
  have hne : scope.allFields ≠ [] := by
    intro hnil
    have hlength := h.two_le_length_allFields
    simp [hnil] at hlength
  have hbound : ∀ field ∈ scope.allFields, field.BoundIn scope := fun field => h.boundIn
  have hkinds := kindsOf_label hbound h.left h.right
  rw [label_projectionOfFields, scope.map_qualifiedName_allFields, ← JoinScope.columnList]
    at hkinds
  rw [hkinds, ← hseveral]
  refine ⟨isSelectList_fieldKinds hne, fun selectList hlist => ?_⟩
  refine (projection_of_fieldKinds hne hbound hlist).2 ?_
  rintro ⟨hself, -⟩
  rw [h.apart] at hself
  cases hself

/-! ## Cells of a filled row -/

theorem mapIdx_getElem?_getD {α : Type} {cells : List String} {list : List α}
    (h : cells.length = list.length) :
    (list.mapIdx fun position _ => cells[position]?.getD "") = cells := by
  apply List.ext_getElem
  · simp [h]
  · intro position hposition hcell
    simp [hcell]

theorem JoinedRow.Fills.map_cellIn_allFields {row : JoinedRow} (h : row.Fills scope.columns) :
    (scope.allFields.map fun field => field.cellIn row.left row.right) =
      row.left.cells ++ row.right.cells := by
  rw [JoinScope.allFields, List.map_append, JoinScope.map_fieldsOf, JoinScope.map_fieldsOf]
  exact congrArg₂ _ (mapIdx_getElem?_getD h.left) (mapIdx_getElem?_getD h.right)

theorem outputIn_allFields (scope : JoinScope) {left right : List Row}
    (h : ∀ row ∈ joinRows left right, row.Fills scope.columns) :
    (Projection.several scope.allFields).outputIn left right =
      Projection.all.outputIn left right := by
  by_cases hcount : matchCount left right = 0
  · simp only [Projection.outputIn, if_pos hcount]
  · rw [Projection.outputIn_of_matchCount_ne_zero _ hcount,
      Projection.outputIn_of_matchCount_ne_zero _ hcount,
      Projection.linesIn_eq_map_joinRows, Projection.linesIn_eq_map_joinRows]
    refine congrArg Output.rows (List.map_congr_left fun row hrow => ?_)
    exact congrArg _ (h row hrow).map_cellIn_allFields

/-! ## Statements with any condition -/

theorem JoinQuery.bodyKinds_restated
    (hleft : (TokenKind.word query.leftRelation.toList).IsLexeme)
    (hright : (TokenKind.word query.rightRelation.toList).IsLexeme)
    (hne : kindsOf query.conditionText.toList ≠ []) :
    bodyKinds (kindsOf query.restated.toList) =
      .word Keyword.select.letters :: (kindsOf query.projection.label.toList ++
        (clauseKinds query.leftRelation.toList query.rightRelation.toList ++
          bodyKinds (kindsOf query.conditionText.toList))) := by
  rw [query.kindsOf_restated hleft hright, ← List.singleton_append,
    bodyKinds_append _ (by simp [hne]), bodyKinds_append _ (by simp [hne]),
    bodyKinds_append _ hne]
  rfl

/-- The first clause stands directly behind the star, and what follows it is the condition. -/
theorem isCondition_of_star (query : JoinQuery)
    (hleft : (TokenKind.word query.leftRelation.toList).IsLexeme)
    (hright : (TokenKind.word query.rightRelation.toList).IsLexeme)
    (hall : query.projection = .all)
    (h : (recognizeJoin? columns query.restated).isSome = true) :
    IsCondition (bodyKinds (kindsOf query.conditionText.toList)) := by
  obtain ⟨index, left, right, hstatement⟩ := (recognizeJoin?_isSome_iff _ _).mp h
  have hstar : kindsOf query.projection.label.toList = [.star] := by
    rw [hall]
    decide +kernel
  have hlist := hstatement.selectList
  have hlength := hstatement.joins.condition
  have hne : kindsOf query.conditionText.toList ≠ [] := by
    intro hnil
    have hle := (bodyKinds_isPrefix (kindsOf query.restated.toList)).length_le
    have hcount := congrArg List.length (query.kindsOf_restated hleft hright)
    simp only [hstar, hnil, List.length_cons, List.length_append, List.length_nil, clauseKinds]
      at hcount
    omega
  rw [query.bodyKinds_restated hleft hright hne, hstar] at hstatement hlength
  generalize bodyKinds (kindsOf query.conditionText.toList) = condition at hstatement hlength ⊢
  have hcondition : condition ≠ [] := by
    rintro rfl
    simp only [List.length_cons, List.length_append, List.length_nil, clauseKinds] at hlength
    omega
  have hjoins : JoinsAt (.word Keyword.select.letters :: ([.star] ++
      (clauseKinds query.leftRelation.toList query.rightRelation.toList ++ condition)))
      (2 + 0) query.leftRelation.toList query.rightRelation.toList := by
    rw [← joinsAt_drop]
    exact joinsAt_clauseKinds hcondition _ _
  obtain rfl : index = 2 := by
    by_contra hindex
    exact hstatement.least 2 (Nat.le_refl 2) (by omega) _ _ hjoins
  refine ⟨hcondition, fun hmem => hstatement.single ?_, hstatement.twoRelations⟩
  simp [hmem]

/-- A condition is cut out of the statement as it is out of a text of its own. -/
theorem JoinQuery.condition_restated
    (hleft : (TokenKind.word query.leftRelation.toList).IsLexeme)
    (hright : (TokenKind.word query.rightRelation.toList).IsLexeme)
    (hne : withoutFinalSemicolon (tokenize query.conditionText.toList) ≠ []) :
    String.ofList (spanText query.restated.toList
        ((withoutFinalSemicolon (tokenize query.restated.toList)).drop
          (1 + (kindsOf query.projection.label.toList).length + 6))) =
      bodyText query.conditionText := by
  have htokens : tokenize query.conditionText.toList ≠ [] := by
    intro hnil
    rw [hnil] at hne
    exact hne rfl
  have hmoved : query.restatedCondition =
      (tokenize query.conditionText.toList).map
        (Token.shift (byteLength (query.restatedFront ++ [' ']))) := by
    have hshift := tokensFrom_shift 0 (byteLength (query.restatedFront ++ [' ']))
      query.conditionText.toList
    rwa [Nat.zero_add] at hshift
  have hbody : withoutFinalSemicolon (tokenize query.restated.toList) =
      tokenize query.restatedFront ++
        (withoutFinalSemicolon (tokenize query.conditionText.toList)).map
          (Token.shift (byteLength (query.restatedFront ++ [' ']))) := by
    rw [query.tokenize_restated, hmoved, withoutFinalSemicolon_append _ (by simpa using htokens),
      withoutFinalSemicolon_map_shift]
  obtain ⟨ending, hending, -⟩ := exists_ending (tokenize query.conditionText.toList)
  have hrun : tokenize query.conditionText.toList =
      [] ++ (withoutFinalSemicolon (tokenize query.conditionText.toList) ++ ending) := hending
  have hspan := spanText_map_shift hrun hne (query.restatedFront ++ [' ']) []
  rw [hbody, List.drop_left' (query.length_tokenize_restatedFront hleft hright),
    query.toList_restated, bodyText, ← hspan]
  simp

/-- With any select list the statement is recognized, and its parts are those it is made of. -/
theorem exists_recognizeJoin?_of_isCondition (columns : ColumnNames) (query : JoinQuery)
    (hleft : (TokenKind.word query.leftRelation.toList).IsLexeme)
    (hright : (TokenKind.word query.rightRelation.toList).IsLexeme)
    (hlist : IsSelectList (kindsOf query.projection.label.toList))
    (hcondition : IsCondition (bodyKinds (kindsOf query.conditionText.toList))) :
    ∃ found, recognizeJoin? columns query.restated = some found ∧
      found.leftRelation = query.leftRelation ∧ found.rightRelation = query.rightRelation ∧
      kindsOf found.fieldsText.toList = kindsOf query.projection.label.toList ∧
      found.conditionText = bodyText query.conditionText := by
  have hne : kindsOf query.conditionText.toList ≠ [] := by
    intro hnil
    rw [hnil] at hcondition
    exact hcondition.nonempty rfl
  have htokens : withoutFinalSemicolon (tokenize query.conditionText.toList) ≠ [] := by
    intro hnil
    apply hcondition.nonempty
    rw [kindsOf, ← map_withoutFinalSemicolon, hnil]
    rfl
  have hbody := query.bodyKinds_restated hleft hright hne
  have hstatement := hlist.isJoinStatement_clauseKinds hcondition query.leftRelation.toList
    query.rightRelation.toList
  rw [← hbody] at hstatement
  obtain ⟨found, hfound, hcut, hfoundLeft, hfoundRight⟩ := hstatement.exists_cutFrom columns
  have hsplit := Option.some.inj (hfound.symm.trans (hstatement.recognizeJoin?_eq columns))
  refine ⟨found, hfound, String.toList_inj.mp hfoundLeft, String.toList_inj.mp hfoundRight, ?_, ?_⟩
  · rw [hcut.fields, hbody, Nat.add_comm 1, List.take_succ_cons, List.drop_one, List.tail_cons,
      List.take_left]
  · rw [hsplit]
    simp only [JoinStatement.toQuery, query.condition_restated hleft hright htokens]

/-! ## Runs -/

theorem exists_recognizeJoin?_star {left right condition : String}
    (hscope : JoinScope.IsDistinct ⟨columns, left, right⟩)
    (hcondition : IsCondition (bodyKinds (kindsOf condition.toList))) :
    ∃ query, recognizeJoin? columns (joinText "*" left right condition) = some query ∧
      query.leftRelation = left ∧ query.rightRelation = right ∧ query.projection = .all ∧
      query.conditionText = bodyText condition := by
  have hstar : kindsOf (Projection.label .all).toList = [.star] := by
    decide +kernel
  have hlist : IsSelectList (kindsOf (Projection.label .all).toList) := by
    rw [hstar]
    exact ⟨by simp, .singleton _, by simp⟩
  -- the statement is the one that a query of everything is restated as
  obtain ⟨query, hquery, hleft, hright, hfields, htext⟩ := exists_recognizeJoin?_of_isCondition
    columns ⟨.all, "*", left, right, condition, none⟩ hscope.left hscope.right hlist hcondition
  refine ⟨query, hquery, hleft, hright, ?_, htext⟩
  rw [projection_of_recognizeJoin? hquery]
  exact JoinScope.projection_eq_all_iff.mpr (hfields.trans hstar)

theorem exists_recognizeJoin?_columnList {left right condition : String}
    (hscope : JoinScope.IsDistinct ⟨columns, left, right⟩)
    (hcondition : IsCondition (bodyKinds (kindsOf condition.toList))) :
    let scope : JoinScope := ⟨columns, left, right⟩
    ∃ query, recognizeJoin? columns (joinText scope.columnList left right condition) =
        some query ∧
      query.leftRelation = left ∧ query.rightRelation = right ∧
      query.projection = .several scope.allFields ∧
      query.conditionText = bodyText condition := by
  intro scope
  have hlabel : (Projection.several scope.allFields).label = scope.columnList := by
    rw [Projection.label, scope.map_qualifiedName_allFields, JoinScope.columnList]
  obtain ⟨hlist, hprojection⟩ := hscope.projection_columnList
  rw [← hlabel] at hlist hprojection ⊢
  obtain ⟨query, hquery, hleft, hright, hfields, htext⟩ := exists_recognizeJoin?_of_isCondition
    columns ⟨.several scope.allFields, scope.columnList, left, right, condition, none⟩ hscope.left
    hscope.right hlist hcondition
  refine ⟨query, hquery, hleft, hright, ?_, htext⟩
  rw [projection_of_recognizeJoin? hquery, hleft, hright]
  exact hprojection _ hfields

/-- A join statement with a star and the one with all columns in its place come to the same end: the
same failure of a scan, or the same lines and counts. -/
theorem simulate_columnList (settings : Settings) (left right condition : String)
    (hscope : JoinScope.IsDistinct ⟨settings.columns, left, right⟩)
    (haccepted :
      (recognizeJoin? settings.columns (joinText "*" left right condition)).isSome = true) :
    let scope : JoinScope := ⟨settings.columns, left, right⟩
    let listed := joinText scope.columnList left right condition
    (∃ query, recognizeJoin? settings.columns listed = some query ∧
      query.projection = .several scope.allFields) ∧
    ∀ scanner,
      (∀ leftRows rightRows, ScanYields settings scanner [] left leftRows →
        ScanYields settings scanner [left] right rightRows →
        ∀ row ∈ joinRows leftRows rightRows, row.Fills settings.columns) →
      (simulate settings scanner (joinText "*" left right condition)).mapOutcome
          Outcome.withoutProjection =
        (simulate settings scanner listed).mapOutcome Outcome.withoutProjection := by
  intro scope listed
  have hcondition : IsCondition (bodyKinds (kindsOf condition.toList)) :=
    isCondition_of_star ⟨.all, "*", left, right, condition, none⟩ hscope.left hscope.right rfl haccepted
  obtain ⟨query, hquery, hleft, hright, hall, htext⟩ :=
    exists_recognizeJoin?_star hscope hcondition
  obtain ⟨other, hother, hleft', hright', hseveral, htext'⟩ :=
    exists_recognizeJoin?_columnList hscope hcondition
  refine ⟨⟨other, hother, hseveral⟩, fun scanner hfills => ?_⟩
  refine mapOutcome_simulate_eq hquery hother (by rw [hall, hseveral]; rfl)
    (hleft.trans hleft'.symm) (hright.trans hright'.symm) fun leftRows rightRows hl hr => ?_
  rw [hleft] at hl hr
  rw [hright] at hr
  have houtput := outputIn_allFields ⟨settings.columns, left, right⟩
    (hfills leftRows rightRows hl hr)
  simp only [JoinQuery.answer, Outcome.withoutProjection, hleft, hright, hleft', hright', htext,
    htext', hall, hseveral, houtput]

/-- Relations and columns named like keywords, a row of three cells that joins nothing, and a
semicolon behind the condition. -/
theorem simulate_columnList_of_keyword_names :
    let settings : Settings := { columns := ⟨["SELECT", "from"], ["Join", "SELECT"]⟩ }
    let scanner := Tables.scanner [("From", "1 | x\n2 | y\n3 | z | z\n"), ("ON", "2 | b\n")]
    let star := simulate settings scanner "SELECT * FROM From INNER JOIN ON ON x = 1 ; "
    let listed := simulate settings scanner <|
      "SELECT From.SELECT, From.from, ON.Join, ON.SELECT " ++
        "FROM From INNER JOIN ON ON x = 1 ; "
    star.scans = ["From", "ON"] ∧
      star.mapOutcome Outcome.withoutProjection = listed.mapOutcome Outcome.withoutProjection := by
  intro settings scanner star listed
  have hscope : JoinScope.IsDistinct ⟨settings.columns, "From", "ON"⟩ :=
    ⟨by decide +kernel, by decide +kernel, by decide, fun side => by cases side <;> decide +kernel⟩
  have hfills : ∀ leftRows rightRows, ScanYields settings scanner [] "From" leftRows →
      ScanYields settings scanner ["From"] "ON" rightRows →
      ∀ row ∈ joinRows leftRows rightRows, row.Fills settings.columns := by
    rintro _ _ ⟨hleft, -⟩ ⟨hright, -⟩ row hrow
    have hleft' : scanner [] "From" = .ok "1 | x\n2 | y\n3 | z | z\n" := by rfl
    have hright' : scanner ["From"] "ON" = .ok "2 | b\n" := by rfl
    obtain rfl := Except.ok.inj (hleft'.symm.trans hleft)
    obtain rfl := Except.ok.inj (hright'.symm.trans hright)
    have hrows : joinRows
        (parseRows settings.markers.discard "1 | x\n2 | y\n3 | z | z\n")
        (parseRows settings.markers.discard "2 | b\n") = [⟨⟨["2", "y"]⟩, ⟨["2", "b"]⟩⟩] := by
      decide +kernel
    rw [hrows, List.mem_singleton] at hrow
    rw [hrow]
    exact ⟨rfl, rfl⟩
  obtain ⟨-, hsame⟩ := simulate_columnList settings "From" "ON" "x = 1 ; " hscope
    (by decide +kernel)
  have hruns := hsame scanner hfills
  have hstar : joinText "*" "From" "ON" "x = 1 ; " =
      "SELECT * FROM From INNER JOIN ON ON x = 1 ; " := by
    decide +kernel
  have hlisted : joinText (JoinScope.columnList ⟨settings.columns, "From", "ON"⟩) "From" "ON"
      "x = 1 ; " =
        "SELECT From.SELECT, From.from, ON.Join, ON.SELECT " ++
          "FROM From INNER JOIN ON ON x = 1 ; " := by
    decide +kernel
  rw [hstar, hlisted] at hruns
  exact ⟨by decide +kernel, hruns⟩

end KeyJoin
