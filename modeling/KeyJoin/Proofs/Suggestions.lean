import KeyJoin.Proofs.ExchangedSelectLists

/-!
# Suggestions and whether they can be taken

A suggestion is a qualified column of the join that is not the refused item in
another spelling; which one it is depends on how alike names are scored.  The
statement can be asked again with the suggestion as its select list.  It is then
answered with the suggested column if that is one word, except for a relation
that is joined with itself: its name asks for a column on the left, and a column
that is on the right side only is suggested, but refused when it is asked for.
-/

namespace KeyJoin

variable {columns : ColumnNames} {statement : String} {query : JoinQuery} {scope : JoinScope}
  {side : Side} {column written suggestion : String} {fault : FieldFault} {field : ResolvedField}

/-- A score for how alike two texts are, which scores count, and which is the higher one. -/
structure Similarity where
  Score : Type
  score : List Char → List Char → Score
  counts : Score → Bool
  exceeds : Score → Score → Bool

def Similarity.jaroWinkler : Similarity :=
  ⟨Float, jaroWinklerScore, fun score => score >= 0.8, fun score other => score > other⟩

/-- Names are as alike as the beginning is long that they have in common. -/
def Similarity.commonStart (least : Nat) : Similarity :=
  ⟨Nat, KeyJoin.commonStart, fun score => least ≤ score, fun score other => score > other⟩

/-- The entry of the highest score, the last one if several have it. -/
def highestBy {α : Type} (exceeds : α → α → Bool) : List (α × String) → Option (α × String)
  | [] => none
  | entry :: entries =>
    match highestBy exceeds entries with
    | none => some entry
    | some best => if exceeds entry.1 best.1 then some entry else some best

/-- The suggestion for `written` when names are scored by this similarity. -/
def JoinScope.suggestBy (similarity : Similarity) (scope : JoinScope) (written : List Char) :
    Option String :=
  let plain := lowercase written
  let scored := (scope.candidates.filter fun name => lowercase name.toList != plain).map
    fun name => (similarity.score plain (lowercase name.toList), name)
  (highestBy similarity.exceeds (scored.filter fun entry => similarity.counts entry.1)).map (·.2)

/-- The column can be asked for by the name of its relation: it is one word, and in a relation
joined with itself a column on the left goes by its name. -/
structure JoinScope.Nameable (scope : JoinScope) (side : Side) (column : String) : Prop where
  word : (TokenKind.word column.toList).IsLexeme
  onLeft : side = .right → sameIgnoringCase scope.left scope.right = true →
    ∃ name ∈ scope.columns.left, sameIgnoringCase name column = true

/-! ## Candidates -/

theorem mem_of_highestBy {α : Type} {exceeds : α → α → Bool} {entries : List (α × String)}
    {best : α × String} (h : highestBy exceeds entries = some best) : best ∈ entries := by
  induction entries with
  | nil => cases h
  | cons entry entries ih =>
      rw [highestBy] at h
      split at h
      · cases h
        exact List.mem_cons_self
      · rename_i other hother
        split at h
        · cases h
          exact List.mem_cons_self
        · cases h
          exact List.mem_cons_of_mem entry (ih hother)

theorem highestScored_eq (entries : List (Float × String)) :
    highestScored entries = highestBy (fun score other => score > other) entries := by
  induction entries with
  | nil => rfl
  | cons entry entries ih =>
      rw [highestScored, highestBy, ih]
      cases highestBy (fun score other : Float => score > other) entries with
      | none => rfl
      | some best => simp only [decide_eq_true_eq]

theorem JoinScope.suggest_eq_suggestBy (scope : JoinScope) (written : List Char) :
    scope.suggest written = scope.suggestBy .jaroWinkler written := by
  rw [suggest, highestScored_eq]
  rfl

theorem JoinScope.mem_candidates_iff {name : String} :
    name ∈ scope.candidates ↔
      ∃ side, ∃ column ∈ scope.columns.onSide side, name = scope.relation side ++ "." ++ column := by
  rw [candidates, List.mem_append, List.mem_map, List.mem_map]
  constructor
  · rintro (⟨column, hcolumn, rfl⟩ | ⟨column, hcolumn, rfl⟩)
    · exact ⟨.left, column, hcolumn, rfl⟩
    · exact ⟨.right, column, hcolumn, rfl⟩
  · rintro ⟨side, column, hcolumn, rfl⟩
    cases side with
    | left => exact .inl ⟨column, hcolumn, rfl⟩
    | right => exact .inr ⟨column, hcolumn, rfl⟩

/-- Whatever the scores are, a candidate is suggested that differs from the item in more than the
case of its letters. -/
theorem JoinScope.mem_candidates_of_suggestBy {similarity : Similarity} {item : List Char}
    (h : scope.suggestBy similarity item = some suggestion) :
    suggestion ∈ scope.candidates ∧ lowercase suggestion.toList ≠ lowercase item := by
  obtain ⟨⟨score, name⟩, hbest, rfl⟩ := Option.map_eq_some_iff.mp h
  have hscored := (List.mem_filter.mp (mem_of_highestBy hbest)).1
  obtain ⟨name', hname, hentry⟩ := List.mem_map.mp hscored
  cases hentry
  obtain ⟨hcandidate, hother⟩ := List.mem_filter.mp hname
  exact ⟨hcandidate, by simpa using hother⟩

theorem JoinScope.suggest_of_resolveItem {item : List Token}
    (h : scope.resolveItem item = .error (.invalid written fault (some suggestion))) :
    scope.suggest written.toList = some suggestion := by
  unfold resolveItem at h
  dsimp only at h
  split at h
  · cases h
  · split at h
    · cases h
    · simp only [Except.error.injEq, Projection.invalid.injEq] at h
      obtain ⟨rfl, -, hsuggestion⟩ := h
      rwa [String.toList_ofList]

theorem suggest_of_resolveItems {items : List (List Token)}
    (h : resolveItems scope items = .error (.invalid written fault (some suggestion))) :
    scope.suggest written.toList = some suggestion := by
  induction items with
  | nil => cases h
  | cons item items ih =>
      rw [resolveItems] at h
      cases hitem : scope.resolveItem item with
      | error projection =>
          simp only [hitem, Except.error.injEq] at h
          rw [h] at hitem
          exact JoinScope.suggest_of_resolveItem hitem
      | ok field =>
          simp only [hitem] at h
          cases hitems : resolveItems scope items with
          | error projection =>
              simp only [hitems, Except.error.injEq] at h
              rw [h] at hitems
              exact ih hitems
          | ok fields =>
              rw [hitems] at h
              cases h

theorem JoinScope.suggest_of_projection {selectList : List Token}
    (h : scope.projection selectList = .invalid written fault (some suggestion)) :
    scope.suggest written.toList = some suggestion := by
  unfold projection at h
  split at h
  · cases h
  · split at h
    · rename_i projection hitems
      rw [h] at hitems
      exact suggest_of_resolveItems hitems
    · exact absurd h (projectionOfFields_ne_invalid _ _ _ _)

/-! ## Names of a field -/

theorem sameIgnoringCase_append {a b a' b' : String} (ha : sameIgnoringCase a a' = true)
    (hb : sameIgnoringCase b b' = true) : sameIgnoringCase (a ++ b) (a' ++ b') = true := by
  rw [sameIgnoringCase_iff] at *
  simp only [String.toList_append, List.map_append, ha, hb]

theorem dot_not_mem_map_toLower {word : List Char} (hword : (TokenKind.word word).IsLexeme) :
    '.' ∉ word.map Char.toLower := by
  intro hmem
  obtain ⟨c, hc, hdot⟩ := List.mem_map.mp hmem
  have hcharacter := (hword.2 c hc).2
  rw [← isWordCharacter_toLower, hdot] at hcharacter
  exact absurd hcharacter (by decide)

/-- The relation of a qualified name is what stands before its first dot. -/
theorem ResolvedField.same_column_of_same_qualifiedName {other : ResolvedField}
    (hfield : (TokenKind.word field.relation.toList).IsLexeme)
    (hother : (TokenKind.word other.relation.toList).IsLexeme)
    (h : sameIgnoringCase field.qualifiedName other.qualifiedName = true) :
    sameIgnoringCase field.column other.column = true := by
  have hcut (field : ResolvedField) : field.qualifiedName.toList.map Char.toLower =
      field.relation.toList.map Char.toLower ++ '.' :: field.column.toList.map Char.toLower := by
    simp [qualifiedName, String.toList_append]
  rw [sameIgnoringCase_iff, hcut, hcut] at h
  rw [sameIgnoringCase_iff]
  exact (append_cons_inj_of_not_mem (dot_not_mem_map_toLower hfield)
    (dot_not_mem_map_toLower hother) h).2

/-! ## Columns behind the name of their relation -/

theorem JoinScope.Qualifies.same {qualifier : String} (h : scope.Qualifies qualifier side) :
    sameIgnoringCase (scope.relation side) qualifier = true := by
  rw [sameIgnoringCase_comm]
  cases h with
  | left hleft => exact hleft
  | right _ hright => exact hright

theorem JoinScope.Qualifies.exists_names {qualifier : String} (h : scope.Qualifies qualifier side)
    (hcolumn : ∃ name ∈ scope.columns.onSide side, sameIgnoringCase name column = true) :
    ∃ field, scope.Names [.word qualifier.toList, .dot, .word column.toList] field ∧
      sameIgnoringCase field.qualifiedName (qualifier ++ "." ++ column) = true := by
  rcases exists_isFirstNamed_or (scope.columns.onSide side) column with
    ⟨position, name, hfirst⟩ | hnone
  · refine ⟨⟨scope.relation side, name, side, position⟩, .qualified ?_ ?_, ?_⟩
    · rwa [String.ofList_toList]
    · rwa [String.ofList_toList]
    · exact sameIgnoringCase_append (sameIgnoringCase_append h.same (sameIgnoringCase_refl "."))
        hfirst.same
  · obtain ⟨name, hmem, hsame⟩ := hcolumn
    rw [hnone name hmem] at hsame
    cases hsame

theorem JoinScope.Nameable.exists_names (h : scope.Nameable side column)
    (hmem : column ∈ scope.columns.onSide side) :
    ∃ field,
      scope.Names [.word (scope.relation side).toList, .dot, .word column.toList] field ∧
      sameIgnoringCase field.qualifiedName (scope.relation side ++ "." ++ column) = true := by
  have hown : ∃ name ∈ scope.columns.onSide side, sameIgnoringCase name column = true :=
    ⟨column, hmem, sameIgnoringCase_refl column⟩
  cases side with
  | left => exact (Qualifies.left (sameIgnoringCase_refl scope.left)).exists_names hown
  | right =>
      cases hself : sameIgnoringCase scope.left scope.right with
      | true =>
          rw [sameIgnoringCase_comm] at hself
          refine (Qualifies.left hself).exists_names (h.onLeft rfl ?_)
          rwa [sameIgnoringCase_comm]
      | false =>
          rw [sameIgnoringCase_comm] at hself
          exact (Qualifies.right hself (sameIgnoringCase_refl scope.right)).exists_names hown

theorem JoinScope.Names.nameable
    (h : scope.Names [.word (scope.relation side).toList, .dot, .word column.toList] field)
    (hword : (TokenKind.word column.toList).IsLexeme) : scope.Nameable side column := by
  refine ⟨hword, fun hright hself => ?_⟩
  cases h with
  | qualified hside hcolumn =>
      rw [String.ofList_toList] at hside hcolumn
      cases hside with
      | left => exact ⟨_, hcolumn.mem, hcolumn.same⟩
      | right hleft =>
          rw [hright, relation, sameIgnoringCase_comm, hself] at hleft
          cases hleft

/-! ## The statement asked again -/

theorem relation_isLexeme_of_recognizeJoin? (h : recognizeJoin? columns statement = some query)
    (side : Side) :
    (TokenKind.word (JoinScope.relation ⟨columns, query.leftRelation, query.rightRelation⟩
      side).toList).IsLexeme := by
  obtain ⟨hleft, hright⟩ := relations_isLexeme_of_recognizeJoin? h
  exact JoinScope.isLexeme_relation hleft hright side

/-- With a qualified column that is one word as its select list the statement is recognized, and
asks for the field that this item names. -/
theorem exists_recognizeJoin?_of_qualified (h : recognizeJoin? columns statement = some query)
    (side : Side) (hword : (TokenKind.word column.toList).IsLexeme) {text : String}
    (htext : ExchangesSelectList statement
      (JoinScope.relation ⟨columns, query.leftRelation, query.rightRelation⟩ side ++ "." ++
        column).toList text) :
    let scope : JoinScope := ⟨columns, query.leftRelation, query.rightRelation⟩
    ∃ taken, recognizeJoin? columns text = some taken ∧
      ∀ field, taken.projection = .single field ↔
        scope.Names [.word (scope.relation side).toList, .dot, .word column.toList] field := by
  intro scope
  let candidate : ResolvedField := ⟨scope.relation side, column, side, 0⟩
  have hrelation := relation_isLexeme_of_recognizeJoin? h side
  have hkinds : kindsOf candidate.qualifiedName.toList = candidate.qualifiedKinds :=
    kindsOf_qualifiedName hrelation hword
  have hlist : IsSelectList candidate.qualifiedKinds := by
    have hfields : IsSelectList (fieldKinds [candidate]) :=
      isSelectList_fieldKinds (List.cons_ne_nil candidate [])
    simpa [fieldKinds] using hfields
  rw [← hkinds] at hlist
  obtain ⟨taken, htaken, hleft, hright, hfields, -⟩ :=
    exists_recognizeJoin?_of_exchanges h hlist htext
  refine ⟨taken, htaken, fun field => ?_⟩
  have hitems : candidate.qualifiedKinds.splitOn .comma = [candidate.qualifiedKinds] :=
    List.splitOnP_eq_singleton (by simp [ResolvedField.qualifiedKinds])
  rw [projection_of_recognizeJoin? htaken, hleft, hright, JoinScope.projection_eq_single_iff]
  change (∃ item, (kindsOf taken.fieldsText.toList).splitOn .comma = [item] ∧ _) ↔ _
  rw [hfields, hkinds, hitems]
  simp only [List.cons.injEq, and_true, exists_eq_left']
  rfl

theorem boundIn_of_single (h : recognizeJoin? columns statement = some query)
    (hsingle : query.projection = .single field) :
    field.BoundIn ⟨columns, query.leftRelation, query.rightRelation⟩ := by
  have hvalid : query.projection.IsValid := by
    intro written fault suggestion hinvalid
    rw [hsingle] at hinvalid
    cases hinvalid
  rcases projection_cases_of_isValid h hvalid with hall | ⟨fields, -, hfields, hbound⟩
  · rw [hsingle] at hall
    cases hall
  · have hsame : fields = [field] := by
      rw [← fields_projectionOfFields fields, ← hfields, hsingle]
      rfl
    exact hbound field (hsame ▸ List.mem_singleton.mpr rfl)

/-- The statement with a candidate as its select list is answered with that column exactly if it can
be asked for by the name of its relation. -/
theorem exists_single_iff_nameable (h : recognizeJoin? columns statement = some query)
    (hmem : column ∈ columns.onSide side) {text : String}
    (htext : ExchangesSelectList statement
      (JoinScope.relation ⟨columns, query.leftRelation, query.rightRelation⟩ side ++ "." ++
        column).toList text) :
    let scope : JoinScope := ⟨columns, query.leftRelation, query.rightRelation⟩
    (∃ taken field, recognizeJoin? columns text = some taken ∧
      taken.projection = .single field ∧
      sameIgnoringCase field.qualifiedName (scope.relation side ++ "." ++ column) = true) ↔
      scope.Nameable side column := by
  intro scope
  constructor
  · rintro ⟨taken, field, htaken, hsingle, hsame⟩
    have hbound := boundIn_of_single htaken hsingle
    have hrelation := relation_isLexeme_of_recognizeJoin? htaken field.side
    rw [← hbound.relation] at hrelation
    let candidate : ResolvedField := ⟨scope.relation side, column, side, 0⟩
    have hcolumn : sameIgnoringCase field.column candidate.column = true :=
      ResolvedField.same_column_of_same_qualifiedName hrelation
        (relation_isLexeme_of_recognizeJoin? h side) hsame
    have hword := hbound.lexeme.of_sameIgnoringCase hcolumn
    obtain ⟨again, hagain, hnames⟩ := exists_recognizeJoin?_of_qualified h side hword htext
    obtain rfl := Option.some.inj (htaken.symm.trans hagain)
    exact ((hnames field).mp hsingle).nameable hword
  · intro hnameable
    obtain ⟨taken, htaken, hnames⟩ :=
      exists_recognizeJoin?_of_qualified h side hnameable.word htext
    obtain ⟨field, hfield, hsame⟩ := hnameable.exists_names hmem
    exact ⟨taken, field, htaken, (hnames field).mpr hfield, hsame⟩

/-- However names are scored, a suggestion is not the refused item in another case, and the statement
that asks for it instead is answered with that column exactly if the name of its relation can be
used to ask for it. -/
theorem suggestion_taken_iff (h : recognizeJoin? columns statement = some query)
    {suggestion? : Option String}
    (hinvalid : query.projection = .invalid written fault suggestion?) :
    let scope : JoinScope := ⟨columns, query.leftRelation, query.rightRelation⟩
    (∀ suggestion, suggestion? = some suggestion →
      scope.suggestBy .jaroWinkler written.toList = some suggestion) ∧
    (∃ before after, statement.toList = before ++ (query.fieldsText.toList ++ after) ∧
      ∀ list, ExchangesSelectList statement list
        (String.ofList (before ++ ([' '] ++ (list ++ ([' '] ++ after)))))) ∧
    ∀ similarity suggestion, scope.suggestBy similarity written.toList = some suggestion →
      lowercase suggestion.toList ≠ lowercase written.toList ∧
      sameIgnoringCase suggestion written = false ∧
      ∃ side, ∃ column ∈ columns.onSide side,
        suggestion = scope.relation side ++ "." ++ column ∧
        ∀ text, ExchangesSelectList statement suggestion.toList text →
          ((∃ taken field, recognizeJoin? columns text = some taken ∧
              taken.projection = .single field ∧
              sameIgnoringCase field.qualifiedName suggestion = true) ↔
            scope.Nameable side column) := by
  intro scope
  refine ⟨?_, exists_text_around_selectList h, fun similarity suggestion hsuggestion => ?_⟩
  · rintro suggestion rfl
    rw [projection_of_recognizeJoin? h] at hinvalid
    rw [← JoinScope.suggest_eq_suggestBy]
    exact JoinScope.suggest_of_projection hinvalid
  · obtain ⟨hcandidate, hother⟩ := JoinScope.mem_candidates_of_suggestBy hsuggestion
    obtain ⟨side, column, hcolumn, rfl⟩ := JoinScope.mem_candidates_iff.mp hcandidate
    refine ⟨hother, ?_, side, column, hcolumn, rfl, fun text htext => ?_⟩
    · rw [Bool.eq_false_iff]
      exact fun hsame => hother (lowercase_eq_of_sameIgnoringCase hsame)
    · exact exists_single_iff_nameable h hcolumn htext

/-- What a refused query says, apart from the suggestion. -/
def JoinQuery.refused? (query : JoinQuery) :
    Option (String × String × String × String × FieldFault) :=
  match query.projection with
  | .invalid written fault _ =>
    some (query.leftRelation, query.rightRelation, query.fieldsText, written, fault)
  | _ => none

theorem exists_invalid_of_refused? {left right fieldsText : String}
    (h : (recognizeJoin? columns statement).bind JoinQuery.refused? =
      some (left, right, fieldsText, written, fault)) :
    ∃ query suggestion?, recognizeJoin? columns statement = some query ∧
      query.leftRelation = left ∧ query.rightRelation = right ∧
      query.fieldsText = fieldsText ∧ query.projection = .invalid written fault suggestion? := by
  obtain ⟨query, hquery, hrefused⟩ := Option.bind_eq_some_iff.mp h
  unfold JoinQuery.refused? at hrefused
  split at hrefused
  · rename_i suggestion? hprojection
    cases hrefused
    exact ⟨query, suggestion?, hquery, rfl, rfl, rfl, hprojection⟩
  · cases hrefused

/-- A misspelt column in a list of two items, its relation written in another case. -/
theorem suggestion_taken_of_misspelt_column :
    let statement := "select B.ages, a.id from A inner join b on x;"
    let text := "select b.age from A inner join b on x"
    ∃ query suggestion?, recognizeJoin? {} statement = some query ∧
      query.projection = .invalid "B.ages" (.missingColumn "b" "ages") suggestion? ∧
      JoinScope.suggestBy (.commonStart 3) ⟨{}, "A", "b"⟩ "B.ages".toList = some "b.age" ∧
      ∃ taken field, recognizeJoin? {} text = some taken ∧ taken.projection = .single field ∧
        sameIgnoringCase field.qualifiedName "b.age" = true := by
  intro statement text
  obtain ⟨query, suggestion?, hquery, hleft, hright, hfields, hinvalid⟩ :
      ∃ query suggestion?, recognizeJoin? {} statement = some query ∧
        query.leftRelation = "A" ∧ query.rightRelation = "b" ∧
        query.fieldsText = "B.ages, a.id" ∧
        query.projection = .invalid "B.ages" (.missingColumn "b" "ages") suggestion? :=
    exists_invalid_of_refused? (by decide +kernel)
  have hsuggestion : JoinScope.suggestBy (.commonStart 3) ⟨{}, "A", "b"⟩ "B.ages".toList =
      some "b.age" := by
    decide +kernel
  have htext : ExchangesSelectList statement "b.age".toList text := by
    refine exchangesSelectList_of_recognizeJoin? hquery ?_
    rw [hfields]
    decide +kernel
  obtain ⟨-, -, htaken⟩ := suggestion_taken_iff hquery hinvalid
  rw [hleft, hright] at htaken
  obtain ⟨-, -, side, column, hcolumn, hname, hiff⟩ := htaken _ _ hsuggestion
  have hwords : ∀ name ∈ ["id", "name", "age"], name.toList ≠ [] ∧
      (name.toList.all fun c => !isBlank c && isWordCharacter c) = true := by
    decide +kernel
  have hlisted : column ∈ ["id", "name", "age"] := by
    cases side <;> simp [ColumnNames.onSide] at hcolumn ⊢ <;> tauto
  have hnameable : JoinScope.Nameable ⟨{}, "A", "b"⟩ side column :=
    ⟨by simpa [TokenKind.IsLexeme] using hwords column hlisted,
      fun _ hself => absurd hself (by decide +kernel)⟩
  exact ⟨query, suggestion?, hquery, hinvalid, hsuggestion, (hiff text htext).mpr hnameable⟩

/-- In a relation joined with itself a column of the right side is suggested under a name that asks
for the left side. -/
theorem suggestion_not_always_taken :
    ¬ ∀ (settings : Settings) (statement text written suggestion : String) (query : JoinQuery)
      (fault : FieldFault) (suggestion? : Option String) (similarity : Similarity),
      settings.validate = .ok () → recognizeJoin? settings.columns statement = some query →
      query.projection = .invalid written fault suggestion? →
      JoinScope.suggestBy similarity ⟨settings.columns, query.leftRelation, query.rightRelation⟩
        written.toList = some suggestion →
      ExchangesSelectList statement suggestion.toList text →
      sameIgnoringCase suggestion written = false ∧
      ∃ taken field, recognizeJoin? settings.columns text = some taken ∧
        taken.projection = .single field ∧
        sameIgnoringCase field.qualifiedName suggestion = true := by
  intro hclaim
  obtain ⟨query, suggestion?, hquery, hleft, hright, hfields, hinvalid⟩ :
      ∃ query suggestion?,
        recognizeJoin? {} "SELECT a.ages FROM a INNER JOIN a ON a.id = a.id" = some query ∧
        query.leftRelation = "a" ∧ query.rightRelation = "a" ∧ query.fieldsText = "a.ages" ∧
        query.projection = .invalid "a.ages" (.missingColumn "a" "ages") suggestion? :=
    exists_invalid_of_refused? (by decide +kernel)
  have htext : ExchangesSelectList "SELECT a.ages FROM a INNER JOIN a ON a.id = a.id"
      "a.age".toList "SELECT a.age FROM a INNER JOIN a ON a.id = a.id" := by
    refine exchangesSelectList_of_recognizeJoin? hquery ?_
    rw [hfields]
    decide +kernel
  have hsuggestion : JoinScope.suggestBy (.commonStart 3) ⟨{}, query.leftRelation,
      query.rightRelation⟩ "a.ages".toList = some "a.age" := by
    rw [hleft, hright]
    decide +kernel
  obtain ⟨-, taken, field, htaken, hsingle, -⟩ :=
    hclaim {} _ _ _ _ query _ _ _ rfl hquery hinvalid hsuggestion htext
  obtain ⟨again, suggestion?, hagain, -, -, -, hrefused⟩ :
      ∃ query suggestion?,
        recognizeJoin? {} "SELECT a.age FROM a INNER JOIN a ON a.id = a.id" = some query ∧
        query.leftRelation = "a" ∧ query.rightRelation = "a" ∧ query.fieldsText = "a.age" ∧
        query.projection = .invalid "a.age" (.missingColumn "a" "age") suggestion? :=
    exists_invalid_of_refused? (by decide +kernel)
  obtain rfl := Option.some.inj (htaken.symm.trans hagain)
  rw [hsingle] at hrefused
  cases hrefused

end KeyJoin
