import KeyJoin.Proofs.ScriptFixedPoint
import KeyJoin.Proofs.StatementMargins
import KeyJoin.Proofs.StatementRoutes

/-!
# Further selects in a statement

A join statement begins with `SELECT`, and its grammar asks no more about this
word: it may occur again among the tokens of the select list, as the name of a
relation, or in the condition, which is kept as it is and not interpreted.  A
nested select in the list is not answered all the same.  There `SELECT` stands
next to a token that does not separate the words of a list, the projection is
invalid, and nothing is scanned.  White space around a statement changes none
of this.
-/

namespace KeyJoin

variable {columns : ColumnNames} {settings : Settings} {statement : String} {query : JoinQuery}
  {kinds : List TokenKind} {index : Nat} {left right : List Char}

/-- The word `SELECT` and a neighbour that is neither comma nor dot. -/
def HoldsInnerSelect (selectList : List TokenKind) : Prop :=
  ∃ a b, [a, b] <:+: selectList ∧
    (a.isKeyword .select = true ∨ b.isKeyword .select = true) ∧ ¬ SeparatedPair a b

/-- The texts of the query are cut from a statement with these kinds, split at `index`. -/
structure JoinQuery.CutFrom (query : JoinQuery) (kinds : List TokenKind) (index : Nat) :
    Prop where
  isStatement : IsJoinStatement kinds index query.leftRelation.toList query.rightRelation.toList
  fields : kindsOf query.fieldsText.toList = (kinds.take index).drop 1
  condition : kindsOf query.conditionText.toList = kinds.drop (index + 6)

theorem exists_cutFrom_of_recognizeJoin? (h : recognizeJoin? columns statement = some query) :
    ∃ index, query.CutFrom (bodyKinds (kindsOf statement.toList)) index := by
  obtain ⟨index, left, right, parts, ending, hread, rfl⟩ := exists_read_of_recognizeJoin? h
  obtain ⟨hfields, -, -⟩ := hread.span_selectList
  obtain ⟨hcondition, -, -⟩ := hread.span_condition
  refine ⟨index, ⟨?_, ?_, ?_⟩⟩
  · simpa [JoinStatement.toQuery] using hread.isStatement
  · simpa [JoinStatement.toQuery, hread.fields] using hfields
  · simpa [JoinStatement.toQuery, hread.condition] using hcondition

/-- A text whose kinds are a join statement is recognized, and the query is cut from them at the
same place. -/
theorem IsJoinStatement.exists_cutFrom {text : String}
    (h : IsJoinStatement (bodyKinds (kindsOf text.toList)) index left right)
    (columns : ColumnNames) :
    ∃ query, recognizeJoin? columns text = some query ∧
      query.CutFrom (bodyKinds (kindsOf text.toList)) index ∧
      query.leftRelation.toList = left ∧ query.rightRelation.toList = right := by
  obtain ⟨query, hquery⟩ := Option.isSome_iff_exists.mp
    ((recognizeJoin?_isSome_iff columns text).mpr ⟨index, left, right, h⟩)
  obtain ⟨index', hcut⟩ := exists_cutFrom_of_recognizeJoin? hquery
  -- the kinds fix the position of the clause, and so the relations
  obtain rfl := h.index_unique hcut.isStatement
  have hleft := hcut.isStatement.joins.left.symm.trans h.joins.left
  have hright := hcut.isStatement.joins.right.symm.trans h.joins.right
  simp only [Option.some.injEq, TokenKind.word.injEq] at hleft hright
  exact ⟨query, hquery, hcut, hleft, hright⟩

/-! ## Where the word can stand -/

theorem Keyword.letters_injective {a b : Keyword} (h : a.letters = b.letters) : a = b := by
  cases a <;> cases b <;> simp_all [Keyword.letters]

theorem eq_of_any_isKeyword {kind? : Option TokenKind} {a b : Keyword}
    (ha : kind?.any (TokenKind.isKeyword a) = true)
    (hb : kind?.any (TokenKind.isKeyword b) = true) : a = b := by
  obtain ⟨text, hkind, hletters⟩ := any_isKeyword_iff.mp ha
  obtain ⟨text', hkind', hletters'⟩ := any_isKeyword_iff.mp hb
  rw [hkind] at hkind'
  cases hkind'
  exact Keyword.letters_injective (hletters.symm.trans hletters')

/-- Before the condition, the word is in the select list or names a relation. -/
theorem IsJoinStatement.place_of_select (h : IsJoinStatement kinds index left right) {place : Nat}
    (hselect : kinds[place]?.any (TokenKind.isKeyword .select) = true) :
    place < index ∨ place = index + 1 ∨ place = index + 4 ∨ index + 6 ≤ place := by
  by_contra hplace
  have hcases : place = index ∨ place = index + 2 ∨ place = index + 3 ∨ place = index + 5 := by
    omega
  rcases hcases with rfl | rfl | rfl | rfl
  · exact absurd (eq_of_any_isKeyword hselect h.joins.fromClause) (by decide)
  · exact absurd (eq_of_any_isKeyword hselect h.joins.inner) (by decide)
  · exact absurd (eq_of_any_isKeyword hselect h.joins.join) (by decide)
  · exact absurd (eq_of_any_isKeyword hselect h.joins.on) (by decide)

/-! ## White space around a statement -/

theorem recognizeJoin?_trimText_eq_none_iff :
    recognizeJoin? columns (trimText statement) = none ↔
      recognizeJoin? columns statement = none := by
  rw [recognizeJoin?_trimText]

theorem exists_recognizeJoin?_trimText (h : recognizeJoin? columns statement = some query) :
    ∃ trimmed, recognizeJoin? columns (trimText statement) = some trimmed ∧
      kindsOf trimmed.fieldsText.toList = kindsOf query.fieldsText.toList :=
  ⟨query, by rwa [recognizeJoin?_trimText], rfl⟩

/-! ## Nested selects -/

theorem exists_invalid_of_holdsInnerSelect
    (h : recognizeJoin? columns statement = some query)
    (hinner : HoldsInnerSelect (kindsOf query.fieldsText.toList)) :
    ∃ field fault suggestion, query.projection = .invalid field fault suggestion := by
  by_contra hvalid
  simp only [not_exists] at hvalid
  obtain ⟨index, left, right, parts, ending, hread, rfl⟩ := exists_read_of_recognizeJoin? h
  obtain ⟨a, b, hpair, -, hapart⟩ := hinner
  have hkinds : kindsOf (JoinStatement.toQuery columns statement.toList
      ⟨parts.selectList, ⟨left, right, parts.condition⟩⟩).fieldsText.toList =
        parts.selectList.map Token.kind := by
    simpa [JoinStatement.toQuery] using hread.span_selectList.1
  have hchain : (parts.selectList.map Token.kind).IsChain SeparatedPair :=
    JoinScope.isChain_of_isValid hvalid
  rw [hkinds] at hpair
  have hneighbours : [a, b].IsChain SeparatedPair := List.IsChain.infix hchain hpair
  exact hapart hneighbours.rel

theorem routeStatement_of_unrecognized {options : RouteOptions} {stamp : RunStamp}
    {engine : Engine} (hnone : recognizeJoin? settings.columns statement = none)
    (hne : trimText statement ≠ "") (hrunning : options.commaJoinOnly = false)
    (hpassing : options.passthrough = true) :
    (routeStatement settings options stamp engine statement).inputs =
      [statementInput settings.engine (trimText statement)] := by
  have hnone' := recognizeJoin?_trimText_eq_none_iff.mpr hnone
  cases hanswer : engine [] (statementInput settings.engine (trimText statement)) with
  | ok output =>
      rw [(Routes.forwarded hne hrunning hnone' hpassing hanswer).routeStatement_eq]
  | error fault =>
      rw [(Routes.notStarted hne hrunning hnone' hpassing hanswer).routeStatement_eq]
      rfl

theorem commaJoinLine_of_unrecognized {line : List Char}
    (h : recognizeJoin? columns (String.ofList line) = none) :
    commaJoinLine columns line = trim line := by
  rw [← recognizeJoin?_trim] at h
  simp only [commaJoinLine, h, ite_self]

/-- Behind the first word of a join statement, `SELECT` stands in the select list, names a relation
or belongs to the condition; with a nested select in its list the statement is refused and nothing
is scanned.  A statement that is no join is not simulated: it is handed on, and kept in a script,
as it is. -/
theorem recognizeJoin?_further_select (settings : Settings) (statement : String) :
    (∀ query, recognizeJoin? settings.columns statement = some query →
      (∃ index, let kinds := bodyKinds (kindsOf statement.toList)
        query.CutFrom kinds index ∧
        ∀ place, 0 < place → kinds[place]?.any (TokenKind.isKeyword .select) = true →
          place < index ∨ place = index + 1 ∨ place = index + 4 ∨ index + 6 ≤ place) ∧
      (HoldsInnerSelect (kindsOf query.fieldsText.toList) →
        (∃ field fault suggestion, ∀ scanner,
          simulate settings scanner statement =
            ⟨.error (.fieldReference field fault suggestion), []⟩) ∧
        ∃ field fault suggestion, ∀ options stamp engine, options.commaJoinOnly = false →
          routeStatement settings options stamp engine statement =
            reportFailure options (.fieldReference field fault suggestion) [])) ∧
    (recognizeJoin? settings.columns statement = none →
      (∀ scanner, simulate settings scanner statement =
        ⟨.error (.notAJoin (trimText statement)), []⟩) ∧
      (trimText statement ≠ "" → ∀ options stamp engine, options.commaJoinOnly = false →
        options.passthrough = true →
        (routeStatement settings options stamp engine statement).inputs =
          [statementInput settings.engine (trimText statement)]) ∧
      commaJoinLine settings.columns statement.toList = trim statement.toList) := by
  constructor
  · intro query hquery
    constructor
    · obtain ⟨index, hcut⟩ := exists_cutFrom_of_recognizeJoin? hquery
      exact ⟨index, hcut, fun place _ hselect => hcut.isStatement.place_of_select hselect⟩
    · intro hinner
      constructor
      · obtain ⟨field, fault, suggestion, hinvalid⟩ :=
          exists_invalid_of_holdsInnerSelect hquery hinner
        refine ⟨field, fault, suggestion, fun scanner => ?_⟩
        exact (Simulates.invalidProjection hquery hinvalid).eq_simulate
      · obtain ⟨trimmed, htrimmed, hfields⟩ := exists_recognizeJoin?_trimText hquery
        rw [← hfields] at hinner
        obtain ⟨field, fault, suggestion, hinvalid⟩ :=
          exists_invalid_of_holdsInnerSelect htrimmed hinner
        refine ⟨field, fault, suggestion, fun options stamp engine hrunning => ?_⟩
        exact (Routes.invalidProjection hrunning htrimmed hinvalid).routeStatement_eq
  · intro hnone
    refine ⟨fun scanner => (Simulates.notAJoin hnone).eq_simulate, ?_, ?_⟩
    · intro hne options stamp engine hrunning hpassing
      exact routeStatement_of_unrecognized hnone hne hrunning hpassing
    · exact commaJoinLine_of_unrecognized (by rwa [String.ofList_toList])

/-- A select nested in the list, and one in place of the right relation. -/
theorem recognizeJoin?_further_select_of_nested :
    (∃ query, recognizeJoin? {} "SELECT a.id, (SELECT 1) FROM a INNER JOIN b ON a.id = b.id" =
        some query ∧ HoldsInnerSelect (kindsOf query.fieldsText.toList)) ∧
    (routeStatement {} {} ⟨"", 0⟩ (fun _ _ => .ok ⟨"1 | x\n", "", some 0⟩)
      "SELECT a.id, (SELECT 1) FROM a INNER JOIN b ON a.id = b.id").inputs = [] ∧
    recognizeJoin? {} "SELECT * FROM a INNER JOIN (SELECT * FROM b) c ON a.id = c.id" = none ∧
    (routeStatement {} {} ⟨"", 0⟩ (fun _ _ => .ok ⟨"1 | x\n", "", some 0⟩)
      "SELECT * FROM a INNER JOIN (SELECT * FROM b) c ON a.id = c.id").inputs =
        ["SELECT * FROM a INNER JOIN (SELECT * FROM b) c ON a.id = c.id\nexit;\n"] ∧
    commaJoinLine {} "SELECT * FROM a INNER JOIN (SELECT * FROM b) c ON a.id = c.id".toList =
      "SELECT * FROM a INNER JOIN (SELECT * FROM b) c ON a.id = c.id".toList := by
  have hquery : recognizeJoin? {} "SELECT a.id, (SELECT 1) FROM a INNER JOIN b ON a.id = b.id" =
      some
        { projection := .invalid "(SELECT1)" .unsupportedExpression none
          fieldsText := "a.id, (SELECT 1)"
          leftRelation := "a"
          rightRelation := "b"
          conditionText := "a.id = b.id"
          keyCondition? := some ⟨⟨some "a", "id"⟩, ⟨some "b", "id"⟩⟩ } := by
    decide +kernel
  have hinner : HoldsInnerSelect (kindsOf "a.id, (SELECT 1)".toList) := by
    refine ⟨.symbol '(', .word "SELECT".toList, ?_, .inr (by decide), ?_⟩
    · exact ⟨[.word "a".toList, .dot, .word "id".toList, .comma],
        [.word "1".toList, .symbol ')'], by decide +kernel⟩
    · rintro ((h | h) | (h | h)) <;> cases h
  have hnone : recognizeJoin? {}
      "SELECT * FROM a INNER JOIN (SELECT * FROM b) c ON a.id = c.id" = none := by
    decide +kernel
  obtain ⟨-, field, fault, suggestion, hrefused⟩ :=
    ((recognizeJoin?_further_select {} _).1 _ hquery).2 hinner
  obtain ⟨-, hforwarded, hkept⟩ := (recognizeJoin?_further_select {} _).2 hnone
  refine ⟨⟨_, hquery, hinner⟩, ?_, hnone, ?_, ?_⟩
  · rw [hrefused {} ⟨"", 0⟩ _ rfl]
    rfl
  · rw [hforwarded (by decide +kernel) {} ⟨"", 0⟩ _ rfl rfl]
    decide +kernel
  · rw [hkept]
    decide +kernel

/-- The second `SELECT` of a union is read as part of the condition. -/
theorem recognizeJoin?_second_select :
    ¬ ∀ (columns : ColumnNames) (statement : String),
      (recognizeJoin? columns statement).isSome = true → ∀ place,
        (kindsOf statement.toList)[place]?.any (TokenKind.isKeyword .select) = true →
          place = 0 := by
  intro h
  have hplace := h {} "SELECT * FROM a INNER JOIN b ON a.id = b.id UNION SELECT * FROM c"
    (by decide +kernel) 16 (by decide +kernel)
  cases hplace

end KeyJoin
