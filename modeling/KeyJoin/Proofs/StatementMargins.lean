import KeyJoin.Proofs.ResolutionByKinds
import KeyJoin.Proofs.StatementText

/-!
# Recognition where a text stands

The tokens of a text move with it when something is put before it, and what
they cut out stays the same.  So a statement is recognized as the same query
with white space around it and without.
-/

namespace KeyJoin

variable {position : Nat} {tokens : List Token} {text lead span trail : List Char}

/-! ## Texts between margins -/

theorem eq_nil_of_blank_append (hspan : Unpadded (lead ++ span)) (hlead : IsBlankText lead) :
    lead = [] := by
  cases lead with
  | nil => rfl
  | cons c rest =>
      have hblank := hlead c List.mem_cons_self
      rw [hspan.first c rfl] at hblank
      cases hblank

theorem eq_nil_of_append_blank (hspan : Unpadded (span ++ trail)) (htrail : IsBlankText trail) :
    trail = [] := by
  by_contra hne
  have hlast := List.getLast?_eq_some_getLast hne
  have hblank := htrail _ (List.mem_of_getLast? hlast)
  rw [hspan.last _ (by rw [List.getLast?_append_of_ne_nil _ hne]; exact hlast)] at hblank
  cases hblank

theorem Layout.tight_of_unpadded (h : Layout position tokens text) (htext : Unpadded text) :
    TightLayout position tokens text := by
  rw [← List.append_nil tokens] at h
  obtain ⟨a, b, rfl, ha, hb⟩ := h.split
  cases hb with
  | blank hgap =>
      have hnil := eq_nil_of_append_blank htext hgap
      rw [hnil, List.append_nil]
      exact ha

/-- A text that is laid out as some tokens and has no margins is what they cut out. -/
theorem spanText_of_layout (h : Layout (byteLength lead) tokens span) (hspan : Unpadded span)
    (hne : tokens ≠ []) (trail : List Char) :
    spanText (lead ++ (span ++ trail)) tokens = span := by
  obtain ⟨gap, core, hcore, rfl, hgap, -⟩ := (h.tight_of_unpadded hspan).span hne trail
  have hnil := eq_nil_of_blank_append hspan hgap
  rw [hcore, hnil, List.nil_append]

/-! ## Moving tokens -/

theorem map_kind_map_shift (distance : Nat) (tokens : List Token) :
    (tokens.map (Token.shift distance)).map Token.kind = tokens.map Token.kind := by
  rw [List.map_map]
  rfl

theorem withoutFinalSemicolon_map_shift (distance : Nat) (tokens : List Token) :
    withoutFinalSemicolon (tokens.map (Token.shift distance)) =
      (withoutFinalSemicolon tokens).map (Token.shift distance) := by
  have hlast : (tokens.map (Token.shift distance)).getLast?.map Token.kind =
      tokens.getLast?.map Token.kind := by
    rw [← List.getLast?_map, map_kind_map_shift, List.getLast?_map]
  unfold withoutFinalSemicolon
  rw [hlast]
  split
  · exact List.map_dropLast.symm
  · rfl

theorem tokenize_between_blanks {before after : List Char} (hbefore : IsBlankText before)
    (hafter : IsBlankText after) (core : List Char) :
    tokenize (before ++ (core ++ after)) =
      (tokenize core).map (Token.shift (byteLength before)) := by
  have hnone : Layout (0 + byteLength core) [] after := .blank hafter
  have hcore := (layout_tokensFrom 0 core).append hnone (startsWord_of_isBlankText hafter)
  have hmoved := hcore.shift (byteLength before)
  rw [List.append_nil] at hmoved
  exact (Layout.blankAppend hbefore hmoved).tokensFrom_eq

theorem tokenize_append_blank_append (a : List Char) {gap : List Char} (hgap : IsBlankText gap)
    (hne : gap ≠ []) (text : List Char) :
    tokenize (a ++ (gap ++ text)) = tokenize a ++ tokensFrom (byteLength (a ++ gap)) text := by
  have htext : Layout (0 + byteLength a) (tokensFrom (byteLength (a ++ gap)) text)
      (gap ++ text) := by
    refine Layout.blankAppend hgap ?_
    rw [Nat.zero_add, ← byteLength_append]
    exact layout_tokensFrom _ text
  exact ((layout_tokensFrom 0 a).append htext (startsWord_blank_append hgap hne text)).tokensFrom_eq

/-- What a run of tokens cuts out does not change when its text is moved into a longer one. -/
theorem spanText_map_shift {core : List Char} {first run last : List Token}
    (htokens : tokenize core = first ++ (run ++ last)) (hrun : run ≠ [])
    (before after : List Char) :
    spanText (before ++ (core ++ after)) (run.map (Token.shift (byteLength before))) =
      spanText core run := by
  have hlayout : Layout 0 (first ++ (run ++ last)) core := by
    rw [← htokens]
    exact layout_tokensFrom 0 core
  obtain ⟨lead, rest, rfl, -, hrest⟩ := hlayout.split
  obtain ⟨piece, trail, rfl, hpiece, -⟩ := hrest.split
  rw [Nat.zero_add] at hpiece
  obtain ⟨gap, span, hspan, rfl, -, hlayout, -, hunpadded⟩ := hpiece.span hrun trail
  rw [hspan]
  have hmoved : Layout (byteLength (before ++ (lead ++ gap)))
      (run.map (Token.shift (byteLength before))) span := by
    rw [byteLength_append before, Nat.add_comm]
    exact hlayout.shift (byteLength before)
  have hne : run.map (Token.shift (byteLength before)) ≠ [] := by simpa using hrun
  have htext : before ++ (lead ++ (gap ++ span ++ trail) ++ after) =
      before ++ (lead ++ gap) ++ (span ++ (trail ++ after)) := by
    simp only [List.append_assoc]
  rw [htext]
  exact spanText_of_layout hmoved hunpadded hne (trail ++ after)

/-! ## Recognition -/

/-- A statement whose kinds are a join statement is recognized, and its tokens are split at that
position. -/
theorem IsJoinStatement.recognizeJoin?_eq {statement : String} {index : Nat}
    {left right : List Char}
    (h : IsJoinStatement (bodyKinds (kindsOf statement.toList)) index left right)
    (columns : ColumnNames) :
    let body := withoutFinalSemicolon (tokenize statement.toList)
    recognizeJoin? columns statement =
      some (JoinStatement.toQuery columns statement.toList
        ⟨(body.take index).drop 1, ⟨left, right, body.drop (index + 6)⟩⟩) := by
  intro body
  have hstatement : joinStatement? (tokenize statement.toList) =
      some ⟨(body.take index).drop 1, ⟨left, right, body.drop (index + 6)⟩⟩ :=
    joinStatement?_eq_some_iff.mpr ⟨index, h, rfl, rfl⟩
  rw [recognizeJoin?_eq_map, hstatement, Option.map_some]

theorem JoinStatement.toQuery_congr {columns : ColumnNames} {first second : List Char}
    {a b : JoinStatement}
    (hlist : a.selectList.map Token.kind = b.selectList.map Token.kind)
    (hleft : a.clause.left = b.clause.left) (hright : a.clause.right = b.clause.right)
    (hcondition : a.clause.condition.map Token.kind = b.clause.condition.map Token.kind)
    (hfields : spanText first a.selectList = spanText second b.selectList)
    (htext : spanText first a.clause.condition = spanText second b.clause.condition) :
    toQuery columns first a = toQuery columns second b := by
  simp only [toQuery, hleft, hright, hfields, htext, keyCondition?_congr hcondition,
    JoinScope.projection_congr _ hlist]

/-- White space around a statement is no part of the query. -/
theorem recognizeJoin?_trimText (columns : ColumnNames) (statement : String) :
    recognizeJoin? columns (trimText statement) = recognizeJoin? columns statement := by
  obtain ⟨before, after, htext, hbefore, hafter⟩ := exists_margins statement.toList
  generalize hcore : trim statement.toList = core at htext
  have htrim : (trimText statement).toList = core := by rw [toList_trimText, hcore]
  have hkinds : kindsOf statement.toList = kindsOf core := by rw [← hcore, kindsOf_trim]
  cases hquery : recognizeJoin? columns statement with
  | none =>
      rw [← Option.not_isSome_iff_eq_none, recognizeJoin?_isSome_iff] at hquery ⊢
      rwa [htrim, ← hkinds]
  | some query =>
      -- both texts are split at the same token, and the parts cut the same out of their own text
      obtain ⟨index, left, right, hstatement⟩ :=
        (recognizeJoin?_isSome_iff columns statement).mp (by rw [hquery]; rfl)
      have htrimmed := hstatement
      rw [hkinds, ← htrim] at htrimmed
      rw [← hquery, hstatement.recognizeJoin?_eq, htrimmed.recognizeJoin?_eq, htrim, htext,
        tokenize_between_blanks hbefore hafter, withoutFinalSemicolon_map_shift]
      obtain ⟨ending, htokens, -⟩ := exists_ending (tokenize core)
      rw [htrim, kindsOf, ← map_withoutFinalSemicolon] at htrimmed
      obtain ⟨parts, hbody, hlist, hcondition, hjoins⟩ := htrimmed.exists_parts
      rw [← hbody] at htokens
      have hfields := htokens.trans (parts.body_append_selectList ending)
      have hlast := htokens.trans (parts.body_append_condition ending)
      simp only [← List.map_take, ← List.map_drop, ← hlist, ← hcondition]
      exact congrArg some (JoinStatement.toQuery_congr (map_kind_map_shift _ _).symm rfl rfl
        (map_kind_map_shift _ _).symm
        (spanText_map_shift hfields hjoins.selectList before after).symm
        (spanText_map_shift hlast hjoins.condition before after).symm)

theorem recognizeJoin?_trim (columns : ColumnNames) (line : List Char) :
    recognizeJoin? columns (String.ofList (trim line)) =
      recognizeJoin? columns (String.ofList line) := by
  have htrim := recognizeJoin?_trimText columns (String.ofList line)
  rwa [trimText, String.toList_ofList] at htrim

section Query

variable {columns : ColumnNames} {statement : String} {query : JoinQuery}

/-- The projection of a query is that of its select list read by itself. -/
theorem projection_of_recognizeJoin? (h : recognizeJoin? columns statement = some query) :
    query.projection =
      JoinScope.projection ⟨columns, query.leftRelation, query.rightRelation⟩
        (tokenize query.fieldsText.toList) := by
  obtain ⟨index, left, right, parts, ending, hread, rfl⟩ := exists_read_of_recognizeJoin? h
  refine JoinScope.projection_congr _ ?_
  simpa [JoinStatement.toQuery, kindsOf] using hread.span_selectList.1.symm

/-- The key condition of a query is that of its condition read by itself. -/
theorem keyCondition?_of_recognizeJoin? (h : recognizeJoin? columns statement = some query) :
    query.keyCondition? = keyCondition? (tokenize query.conditionText.toList) := by
  obtain ⟨index, left, right, parts, ending, hread, rfl⟩ := exists_read_of_recognizeJoin? h
  refine keyCondition?_congr ?_
  simpa [JoinStatement.toQuery, kindsOf] using hread.span_condition.1.symm

end Query

end KeyJoin
