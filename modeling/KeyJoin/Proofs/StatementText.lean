import KeyJoin.Proofs.JoinGrammar

/-!
# The text of a recognized join

A statement is recognized exactly when the kinds of its tokens are a join
statement.  Nothing of it is then lost: it is the keywords in the letters they
were written in, the two relations, the select list and the condition, with
nothing but white space and perhaps a last semicolon besides.
-/

namespace KeyJoin

variable {tokens : List Token} {text left right : List Char} {index : Nat}

/-! ## Recognition -/

def JoinStatement.toQuery (columns : ColumnNames) (text : List Char) (statement : JoinStatement) :
    JoinQuery :=
  let left := String.ofList statement.clause.left
  let right := String.ofList statement.clause.right
  { projection := JoinScope.projection ⟨columns, left, right⟩ statement.selectList
    fieldsText := String.ofList (spanText text statement.selectList)
    leftRelation := left
    rightRelation := right
    conditionText := String.ofList (spanText text statement.clause.condition)
    keyCondition? := KeyJoin.keyCondition? statement.clause.condition }

theorem recognizeJoin?_eq_map (columns : ColumnNames) (statement : String) :
    recognizeJoin? columns statement =
      (joinStatement? (tokenize statement.toList)).map
        (JoinStatement.toQuery columns statement.toList) := by
  simp only [recognizeJoin?]
  cases joinStatement? (tokenize statement.toList) <;> rfl

theorem recognizeJoin?_isSome_iff (columns : ColumnNames) (statement : String) :
    (recognizeJoin? columns statement).isSome = true ↔
      ∃ index left right,
        IsJoinStatement (bodyKinds (kindsOf statement.toList)) index left right := by
  rw [recognizeJoin?_eq_map, Option.isSome_map, Option.isSome_iff_exists]
  constructor
  · rintro ⟨found, hfound⟩
    obtain ⟨index, hstatement, -, -⟩ := joinStatement?_eq_some_iff.mp hfound
    exact ⟨index, _, _, hstatement⟩
  · rintro ⟨index, left, right, hstatement⟩
    let body := withoutFinalSemicolon (tokenize statement.toList)
    let found : JoinStatement :=
      ⟨(body.take index).drop 1, ⟨left, right, body.drop (index + 6)⟩⟩
    exact ⟨found, joinStatement?_eq_some_iff.mpr ⟨index, hstatement, rfl, rfl⟩⟩

/-! ## The parts of the statement -/

/-- The parts in order, with white space, or none, before, between and behind them. -/
inductive Spaced : List (List Char) → List Char → Prop
  | blank {gap : List Char} (hgap : IsBlankText gap) : Spaced [] gap
  | part {part text : List Char} {parts : List (List Char)} (gap : List Char)
      (hgap : IsBlankText gap) (rest : Spaced parts text) :
      Spaced (part :: parts) (gap ++ (part ++ text))

theorem Spaced.blankAppend {parts : List (List Char)} {gap : List Char}
    (hblank : IsBlankText gap) (h : Spaced parts text) : Spaced parts (gap ++ text) := by
  cases h with
  | blank hgap => exact .blank (isBlankText_append hblank hgap)
  | part gap' hgap rest =>
      rw [← List.append_assoc]
      exact .part (gap ++ gap') (isBlankText_append hblank hgap) rest

theorem Spaced.append {first second : List (List Char)} {a b : List Char}
    (ha : Spaced first a) (hb : Spaced second b) : Spaced (first ++ second) (a ++ b) := by
  induction ha with
  | blank hgap => exact hb.blankAppend hgap
  | part gap hgap rest ih =>
      simp only [List.cons_append, List.append_assoc]
      exact .part gap hgap ih

theorem spaced_singleton {gap : List Char} (hgap : IsBlankText gap) (part : List Char) :
    Spaced [part] (gap ++ part) := by
  have h : Spaced [part] (gap ++ (part ++ [])) := .part gap hgap (.blank isBlankText_nil)
  rwa [List.append_nil] at h

theorem Layout.spaced {position : Nat} (h : Layout position tokens text) :
    Spaced (tokens.map fun token => token.kind.text) text := by
  induction h with
  | blank hgap => exact .blank hgap
  | token gap kind hgap hkind hstart hstop apart rest ih => exact .part gap hgap ih

/-- The letters of a keyword, each in either case. -/
def Keyword.Spells (keyword : Keyword) (word : List Char) : Prop :=
  word.map Char.toUpper = keyword.letters

theorem Token.spells_of_isKeyword {keyword : Keyword} {token : Token}
    (h : token.isKeyword keyword = true) : keyword.Spells token.kind.text := by
  obtain ⟨text, hkind, hletters⟩ := TokenKind.isKeyword_iff.mp h
  rw [hkind]
  exact hletters

/-- The text is the query in words: its keywords, its relations, its select list and its condition
as they stand in the query, and at most one semicolon. -/
structure JoinQuery.WrittenIn (query : JoinQuery) (text : List Char) : Prop where
  parts : ∃ select fromWord inner join on : List Char, ∃ ending : List (List Char),
    Keyword.select.Spells select ∧ Keyword.fromClause.Spells fromWord ∧
      Keyword.inner.Spells inner ∧ Keyword.join.Spells join ∧ Keyword.on.Spells on ∧
      (ending = [] ∨ ending = [[';']]) ∧
      Spaced
        ([select, query.fieldsText.toList, fromWord, query.leftRelation.toList, inner, join,
          query.rightRelation.toList, on, query.conditionText.toList] ++ ending) text
  fields : query.fieldsText ≠ "" ∧ Unpadded query.fieldsText.toList
  condition : query.conditionText ≠ "" ∧ Unpadded query.conditionText.toList

/-- The tokens of a join statement, part by part. -/
structure StatementParts where
  select : Token
  selectList : List Token
  fromWord : Token
  leftWord : Token
  inner : Token
  join : Token
  rightWord : Token
  on : Token
  condition : List Token

def StatementParts.clauseTokens (parts : StatementParts) : List Token :=
  [parts.fromWord, parts.leftWord, parts.inner, parts.join, parts.rightWord, parts.on]

def StatementParts.body (parts : StatementParts) : List Token :=
  [parts.select] ++ (parts.selectList ++ (parts.clauseTokens ++ parts.condition))

theorem StatementParts.body_append_selectList (parts : StatementParts) (ending : List Token) :
    parts.body ++ ending = [parts.select] ++
      (parts.selectList ++ (parts.clauseTokens ++ (parts.condition ++ ending))) := by
  simp [StatementParts.body]

theorem StatementParts.body_append_condition (parts : StatementParts) (ending : List Token) :
    parts.body ++ ending = [parts.select] ++ (parts.selectList ++ parts.clauseTokens) ++
      (parts.condition ++ ending) := by
  simp [StatementParts.body]

structure StatementParts.Joins (parts : StatementParts) (left right : List Char) : Prop where
  select : parts.select.isKeyword .select = true
  selectList : parts.selectList ≠ []
  fromClause : parts.fromWord.isKeyword .fromClause = true
  left : parts.leftWord.kind = .word left
  inner : parts.inner.isKeyword .inner = true
  join : parts.join.isKeyword .join = true
  right : parts.rightWord.kind = .word right
  on : parts.on.isKeyword .on = true
  condition : parts.condition ≠ []

theorem IsJoinStatement.exists_parts
    (h : IsJoinStatement (tokens.map Token.kind) index left right) :
    ∃ parts : StatementParts, parts.body = tokens ∧
      parts.selectList = (tokens.take index).drop 1 ∧
      parts.condition = tokens.drop (index + 6) ∧ parts.Joins left right := by
  have hlength := h.joins.condition
  rw [List.length_map] at hlength
  have hle := h.selectList
  have hjoins : JoinsAt ((tokens.drop index).map Token.kind) 0 left right := by
    rw [List.map_drop, joinsAt_drop]
    exact h.joins
  obtain ⟨fromWord, leftWord, inner, join, rightWord, on, token, condition, hclause⟩ :=
    exists_clause_of_length (show 6 < (tokens.drop index).length by
      rw [List.length_drop]
      omega)
  obtain ⟨select, first, list, hbefore⟩ :
      ∃ select first list, tokens.take index = select :: first :: list := by
    have htake : 2 ≤ (tokens.take index).length := by
      rw [List.length_take]
      omega
    cases hbefore : tokens.take index with
    | nil => simp [hbefore] at htake
    | cons select rest =>
        cases rest with
        | nil => simp [hbefore] at htake
        | cons first list => exact ⟨select, first, list, rfl⟩
  have hcondition : tokens.drop (index + 6) = token :: condition := by
    rw [← List.drop_drop, hclause]
    rfl
  have htokens : tokens = select :: first :: list ++
      (fromWord :: leftWord :: inner :: join :: rightWord :: on :: token :: condition) := by
    rw [← hbefore, ← hclause, List.take_append_drop]
  rw [hclause] at hjoins
  refine ⟨⟨select, first :: list, fromWord, leftWord, inner, join, rightWord, on,
    token :: condition⟩, ?_, ?_, hcondition.symm, ?_⟩
  · rw [htokens]
    rfl
  · rw [hbefore]
    rfl
  · have hselect := h.select
    rw [htokens] at hselect
    exact ⟨hselect, by simp, hjoins.fromClause, by simpa using hjoins.left, hjoins.inner,
      hjoins.join, by simpa using hjoins.right, hjoins.on, by simp⟩

theorem exists_ending (tokens : List Token) :
    ∃ ending, tokens = withoutFinalSemicolon tokens ++ ending ∧
      (ending = [] ∨ ∃ token, ending = [token] ∧ token.kind = .semicolon) := by
  unfold withoutFinalSemicolon
  split
  · rename_i hlast
    obtain ⟨token, htoken, hkind⟩ := Option.map_eq_some_iff.mp hlast
    refine ⟨[token], ?_, .inr ⟨token, rfl, hkind⟩⟩
    exact (List.dropLast_append_getLast? token htoken).symm
  · exact ⟨[], by simp, .inl rfl⟩

/-- The parts and the ending are the tokens of a text that is a join statement, split at
`index`. -/
structure StatementParts.Read (parts : StatementParts) (ending : List Token) (text : List Char)
    (index : Nat) (left right : List Char) : Prop where
  isStatement : IsJoinStatement (bodyKinds (kindsOf text)) index left right
  fields : parts.selectList.map Token.kind = ((bodyKinds (kindsOf text)).take index).drop 1
  condition : parts.condition.map Token.kind = (bodyKinds (kindsOf text)).drop (index + 6)
  joins : parts.Joins left right
  tokens : tokenize text = parts.body ++ ending
  ending : ending = [] ∨ ∃ token, ending = [token] ∧ token.kind = .semicolon

section Read

variable {parts : StatementParts} {ending : List Token}

theorem StatementParts.Read.layout (h : parts.Read ending text index left right) :
    Layout 0 (parts.body ++ ending) text := by
  rw [← h.tokens]
  exact layout_tokensFrom 0 text

theorem StatementParts.Read.isLexeme (h : parts.Read ending text index left right) {token : Token}
    (htoken : token ∈ parts.body) : token.kind.IsLexeme :=
  h.layout.isLexeme token (List.mem_append_left ending htoken)

theorem StatementParts.Read.leftLexeme (h : parts.Read ending text index left right) :
    (TokenKind.word left).IsLexeme := by
  rw [← h.joins.left]
  exact h.isLexeme (by simp [StatementParts.body, StatementParts.clauseTokens])

theorem StatementParts.Read.rightLexeme (h : parts.Read ending text index left right) :
    (TokenKind.word right).IsLexeme := by
  rw [← h.joins.right]
  exact h.isLexeme (by simp [StatementParts.body, StatementParts.clauseTokens])

/-- The text of the select list reads as its tokens do in the statement. -/
theorem StatementParts.Read.span_selectList (h : parts.Read ending text index left right) :
    kindsOf (spanText text parts.selectList) = parts.selectList.map Token.kind ∧
      spanText text parts.selectList ≠ [] ∧ Unpadded (spanText text parts.selectList) := by
  exact spanText_of_tokenize_eq (h.tokens.trans (parts.body_append_selectList ending))
    h.joins.selectList

theorem StatementParts.Read.span_condition (h : parts.Read ending text index left right) :
    kindsOf (spanText text parts.condition) = parts.condition.map Token.kind ∧
      spanText text parts.condition ≠ [] ∧ Unpadded (spanText text parts.condition) := by
  exact spanText_of_tokenize_eq (h.tokens.trans (parts.body_append_condition ending))
    h.joins.condition

theorem StatementParts.Read.spaced (h : parts.Read ending text index left right) :
    Spaced ([parts.select.kind.text, spanText text parts.selectList] ++
      (parts.clauseTokens.map fun token => token.kind.text) ++
      [spanText text parts.condition] ++ ending.map fun token => token.kind.text) text := by
  have hlayout := h.layout
  simp only [StatementParts.body, List.append_assoc] at hlayout
  obtain ⟨a, rest, rfl, ha, hrest⟩ := hlayout.split
  obtain ⟨b, rest, rfl, hb, hrest⟩ := hrest.split
  obtain ⟨c, rest, rfl, hc, hrest⟩ := hrest.split
  obtain ⟨d, rest, rfl, hd, hrest⟩ := hrest.split
  have hb' : TightLayout (byteLength a) parts.selectList b := by simpa using hb
  have hd' : TightLayout (byteLength (a ++ (b ++ c))) parts.condition d := by
    simpa [Nat.add_assoc] using hd
  obtain ⟨gap, fields, hfields, rfl, hgap, -⟩ := hb'.span h.joins.selectList (c ++ (d ++ rest))
  obtain ⟨gap', condition, hcondition, rfl, hgap', -⟩ := hd'.span h.joins.condition rest
  have hassoc : a ++ (gap ++ fields ++ c) ++ (gap' ++ condition ++ rest) =
      a ++ (gap ++ fields ++ (c ++ (gap' ++ condition ++ rest))) := by
    simp only [List.append_assoc]
  rw [hassoc] at hcondition
  rw [hfields, hcondition]
  have hselect := ha.layout.spaced
  have hlist := spaced_singleton hgap fields
  have hclause := hc.layout.spaced
  have hend := (spaced_singleton hgap' condition).append hrest.spaced
  simpa only [List.append_assoc, List.map_cons, List.map_nil, List.cons_append, List.nil_append]
    using hselect.append (hlist.append (hclause.append hend))

theorem StatementParts.Read.writtenIn (h : parts.Read ending text index left right)
    (columns : ColumnNames) :
    (JoinStatement.toQuery columns text
      ⟨parts.selectList, ⟨left, right, parts.condition⟩⟩).WrittenIn text := by
  obtain ⟨-, hfields⟩ := h.span_selectList
  obtain ⟨-, hcondition⟩ := h.span_condition
  refine ⟨⟨parts.select.kind.text, parts.fromWord.kind.text, parts.inner.kind.text,
    parts.join.kind.text, parts.on.kind.text, ending.map fun token => token.kind.text,
    Token.spells_of_isKeyword h.joins.select, Token.spells_of_isKeyword h.joins.fromClause,
    Token.spells_of_isKeyword h.joins.inner, Token.spells_of_isKeyword h.joins.join,
    Token.spells_of_isKeyword h.joins.on, ?_, ?_⟩, ?_, ?_⟩
  · rcases h.ending with rfl | ⟨token, rfl, hkind⟩
    · exact .inl rfl
    · simp [hkind, TokenKind.text]
  · simpa [JoinStatement.toQuery, StatementParts.clauseTokens, h.joins.left, h.joins.right,
      TokenKind.text] using h.spaced
  · simpa [JoinStatement.toQuery] using hfields
  · simpa [JoinStatement.toQuery] using hcondition

end Read

/-- A recognized query is read off the parts of a statement, one after the other. -/
theorem exists_read_of_recognizeJoin? {columns : ColumnNames} {statement : String}
    {query : JoinQuery} (h : recognizeJoin? columns statement = some query) :
    ∃ index left right, ∃ parts : StatementParts, ∃ ending : List Token,
      parts.Read ending statement.toList index left right ∧
      query = JoinStatement.toQuery columns statement.toList
        ⟨parts.selectList, ⟨left, right, parts.condition⟩⟩ := by
  rw [recognizeJoin?_eq_map] at h
  obtain ⟨⟨selectList, ⟨left, right, condition⟩⟩, hfound, rfl⟩ := Option.map_eq_some_iff.mp h
  obtain ⟨index, hstatement, hlist, hcondition⟩ := joinStatement?_eq_some_iff.mp hfound
  have hbody := hstatement
  rw [← map_withoutFinalSemicolon] at hbody
  obtain ⟨parts, hparts, hpartsList, hpartsCondition, hjoins⟩ := hbody.exists_parts
  obtain ⟨ending, htokens, hending⟩ := exists_ending (tokenize statement.toList)
  simp only at hlist hcondition
  refine ⟨index, left, right, parts, ending, ⟨hstatement, ?_, ?_, hjoins, ?_, hending⟩, ?_⟩
  · rw [hpartsList, kindsOf, ← map_withoutFinalSemicolon, List.map_drop, List.map_take]
  · rw [hpartsCondition, kindsOf, ← map_withoutFinalSemicolon, List.map_drop]
  · rw [hparts]
    exact htokens
  · rw [hlist, hcondition, hpartsList, hpartsCondition]

theorem writtenIn_of_recognizeJoin? {columns : ColumnNames} {statement : String}
    {query : JoinQuery} (h : recognizeJoin? columns statement = some query) :
    query.WrittenIn statement.toList := by
  obtain ⟨index, left, right, parts, ending, hread, rfl⟩ := exists_read_of_recognizeJoin? h
  exact hread.writtenIn columns

/-- Exactly the join statements are recognized, and a recognized one can be read back from its
relations, its select list and its condition. -/
theorem recognizeJoin?_exact (columns : ColumnNames) (statement : String) :
    ((recognizeJoin? columns statement).isSome = true ↔
      ∃ index left right,
        IsJoinStatement (bodyKinds (kindsOf statement.toList)) index left right) ∧
    ∀ query, recognizeJoin? columns statement = some query →
      (∃ index, IsJoinStatement (bodyKinds (kindsOf statement.toList)) index
        query.leftRelation.toList query.rightRelation.toList) ∧
      query.WrittenIn statement.toList := by
  refine ⟨recognizeJoin?_isSome_iff columns statement, fun query hquery => ?_⟩
  refine ⟨?_, writtenIn_of_recognizeJoin? hquery⟩
  obtain ⟨index, left, right, parts, ending, hread, rfl⟩ := exists_read_of_recognizeJoin? hquery
  exact ⟨index, by simpa [JoinStatement.toQuery] using hread.isStatement⟩

/-- A `FROM` in the select list that no join follows, a relation named like a keyword, and white
space behind the semicolon. -/
theorem recognizeJoin?_exact_of_early_from :
    ∃ query : JoinQuery,
      recognizeJoin? {} "\tselect age From FROM a\ninner Join ON on a.id>7 ;\u3000" = some query ∧
      query.fieldsText = "age From" ∧ query.rightRelation = "ON" ∧
      query.WrittenIn "\tselect age From FROM a\ninner Join ON on a.id>7 ;\u3000".toList := by
  have hquery : recognizeJoin? {} "\tselect age From FROM a\ninner Join ON on a.id>7 ;\u3000" =
      some
        { projection := .invalid "ageFrom" .unsupportedExpression none
          fieldsText := "age From"
          leftRelation := "a"
          rightRelation := "ON"
          conditionText := "a.id>7"
          keyCondition? := none } := by
    decide +kernel
  exact ⟨_, hquery, rfl, rfl, ((recognizeJoin?_exact _ _).2 _ hquery).2⟩

end KeyJoin
