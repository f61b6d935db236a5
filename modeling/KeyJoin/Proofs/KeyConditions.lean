import KeyJoin.Proofs.FurtherSelects
import KeyJoin.Proofs.QualifiedNames

/-!
# Key conditions

A condition is decoded when it reads column, equality sign, column in full, each
column with a relation and a dot in front of it or without.  The first equality
sign cuts it, and neither column holds another one, so the two columns are the
tokens before and behind it and nothing else.  Written down again they have the
tokens of the condition; a condition with anything more in it is not decoded.
-/

namespace KeyJoin

variable {columns : ColumnNames} {statement : String} {query : JoinQuery}
  {tokens : List Token} {reference : ColumnReference} {key : KeyCondition} {kind : TokenKind}

/-- The tokens of a column, with its relation or without. -/
inductive IsColumn : List TokenKind → Prop
  | bare (column : List Char) : IsColumn [.word column]
  | qualified (relation column : List Char) : IsColumn [.word relation, .dot, .word column]

def ColumnReference.kinds (reference : ColumnReference) : List TokenKind :=
  match reference.relation? with
  | none => [.word reference.column.toList]
  | some relation => [.word relation.toList, .dot, .word reference.column.toList]

def ColumnReference.written (reference : ColumnReference) : String :=
  match reference.relation? with
  | none => reference.column
  | some relation => relation ++ "." ++ reference.column

def KeyCondition.kinds (key : KeyCondition) : List TokenKind :=
  key.left.kinds ++ .equals :: key.right.kinds

def KeyCondition.written (key : KeyCondition) : String :=
  key.left.written ++ " = " ++ key.right.written

/-! ## Columns -/

theorem ColumnReference.isColumn_kinds (reference : ColumnReference) :
    IsColumn reference.kinds := by
  obtain ⟨_ | relation, column⟩ := reference
  · exact .bare column.toList
  · exact .qualified relation.toList column.toList

theorem IsColumn.exists_reference {kinds : List TokenKind} (h : IsColumn kinds) :
    ∃ reference : ColumnReference, reference.kinds = kinds := by
  cases h with
  | bare column =>
      refine ⟨⟨none, String.ofList column⟩, ?_⟩
      simp [ColumnReference.kinds]
  | qualified relation column =>
      refine ⟨⟨some (String.ofList relation), String.ofList column⟩, ?_⟩
      simp [ColumnReference.kinds]

theorem columnReference?_eq_some_iff :
    columnReference? tokens = some reference ↔ tokens.map Token.kind = reference.kinds := by
  constructor
  · intro h
    unfold columnReference? at h
    split at h
    · rename_i hkinds
      cases h
      simpa [ColumnReference.kinds] using hkinds
    · rename_i hkinds
      cases h
      simpa [ColumnReference.kinds] using hkinds
    · cases h
  · intro h
    obtain ⟨_ | relation, column⟩ := reference
    · simp [columnReference?, h, ColumnReference.kinds]
    · simp [columnReference?, h, ColumnReference.kinds]

theorem ColumnReference.kinds_cases (h : kind ∈ reference.kinds) :
    (∃ text, kind = .word text) ∨ kind = .dot := by
  have hcolumn := reference.isColumn_kinds
  generalize reference.kinds = kinds at h hcolumn
  cases hcolumn with
  | bare column =>
      left
      exact ⟨column, List.mem_singleton.mp h⟩
  | qualified relation column =>
      simp only [List.mem_cons, List.not_mem_nil, or_false] at h
      rcases h with rfl | rfl | rfl
      · exact .inl ⟨relation, rfl⟩
      · exact .inr rfl
      · exact .inl ⟨column, rfl⟩

theorem ColumnReference.equals_not_mem_kinds (reference : ColumnReference) :
    .equals ∉ reference.kinds := by
  intro h
  rcases kinds_cases h with ⟨text, htext⟩ | hdot
  · cases htext
  · cases hdot

theorem ColumnReference.length_kinds_le (reference : ColumnReference) :
    reference.kinds.length ≤ 3 := by
  have hcolumn := reference.isColumn_kinds
  generalize reference.kinds = kinds at hcolumn
  cases hcolumn <;> simp

/-- Behind a column only a dot can stand that belongs to a longer one. -/
theorem ColumnReference.eq_dot_of_kinds_append {longer : ColumnReference} {rest : List TokenKind}
    (h : reference.kinds ++ kind :: rest = longer.kinds) : kind = .dot := by
  have hshort := reference.isColumn_kinds
  have hlong := longer.isColumn_kinds
  rw [← h] at hlong
  generalize reference.kinds = kinds at hshort hlong
  cases hshort with
  | bare column =>
      cases hlong with
      | qualified relation column => rfl
  | qualified relation column => cases hlong

theorem ColumnReference.kindsOf_written (h : ∀ kind ∈ reference.kinds, kind.IsLexeme) :
    kindsOf reference.written.toList = reference.kinds := by
  obtain ⟨_ | relation, column⟩ := reference
  · exact kindsOf_word (h _ List.mem_cons_self)
  · have hrelation : (TokenKind.word relation.toList).IsLexeme := h _ List.mem_cons_self
    have hcolumn : (TokenKind.word column.toList).IsLexeme := h _ (by simp [kinds])
    -- the reference is written as a field of this relation and column would be
    let field : ResolvedField := ⟨relation, column, .left, 0⟩
    have hfield : kindsOf field.qualifiedName.toList = field.qualifiedKinds :=
      kindsOf_qualifiedName hrelation hcolumn
    exact hfield

/-! ## Conditions -/

theorem keyCondition?_eq_some_iff :
    keyCondition? tokens = some key ↔ tokens.map Token.kind = key.kinds := by
  constructor
  · intro h
    have hcut := List.takeWhile_append_dropWhile (p := fun token : Token => token.kind != .equals)
      (l := tokens)
    unfold keyCondition? at h
    split at h
    · cases h
    · rename_i sign right hdrop
      have hsign : sign.kind = .equals := by
        have hnot := List.head?_dropWhile_not (fun token : Token => token.kind != .equals) tokens
        rw [hdrop] at hnot
        simpa using hnot
      split at h
      · rename_i left right' hleft hright
        cases h
        rw [columnReference?_eq_some_iff] at hleft hright
        rw [← hcut, hdrop, List.map_append, List.map_cons, hleft, hright, hsign]
        rfl
      · cases h
  · intro h
    obtain ⟨before, after, rfl, hleft, hafter⟩ := List.map_eq_append_iff.mp h
    obtain ⟨sign, right, rfl, hsign, hright⟩ := List.map_eq_cons_iff.mp hafter
    have hbefore : ∀ token ∈ before, (token.kind != .equals) = true := by
      intro token htoken
      have hmem : token.kind ∈ key.left.kinds := by
        rw [← hleft]
        exact List.mem_map_of_mem htoken
      have hne : token.kind ≠ .equals := by
        intro hequals
        rw [hequals] at hmem
        exact key.left.equals_not_mem_kinds hmem
      simpa using hne
    have htake : (before ++ sign :: right).takeWhile (fun token => token.kind != .equals) =
        before := by
      rw [List.takeWhile_append_of_pos hbefore]
      simp [hsign]
    have hdrop : (before ++ sign :: right).dropWhile (fun token => token.kind != .equals) =
        sign :: right := by
      rw [List.dropWhile_append_of_pos hbefore]
      simp [hsign]
    simp only [keyCondition?, hdrop, htake, columnReference?_eq_some_iff.mpr hleft,
      columnReference?_eq_some_iff.mpr hright]

theorem KeyCondition.count_equals_kinds (key : KeyCondition) : key.kinds.count .equals = 1 := by
  have hleft := List.count_eq_zero.mpr key.left.equals_not_mem_kinds
  have hright := List.count_eq_zero.mpr key.right.equals_not_mem_kinds
  rw [kinds, List.count_append, List.count_cons_self, hleft, hright]

theorem KeyCondition.length_kinds_le (key : KeyCondition) : key.kinds.length ≤ 7 := by
  have hleft := key.left.length_kinds_le
  have hright := key.right.length_kinds_le
  rw [kinds, List.length_append, List.length_cons]
  omega

theorem KeyCondition.kinds_cases (h : kind ∈ key.kinds) :
    (∃ text, kind = .word text) ∨ kind = .dot ∨ kind = .equals := by
  rcases List.mem_append.mp h with h | h
  · exact (ColumnReference.kinds_cases h).imp_right .inl
  · rcases List.mem_cons.mp h with rfl | h
    · exact .inr (.inr rfl)
    · exact (ColumnReference.kinds_cases h).imp_right .inl

/-- A condition that goes on behind a decoded one goes on in its last column, or is not decoded. -/
theorem KeyCondition.eq_dot_of_kinds_append {longer : KeyCondition} {rest : List TokenKind}
    (h : key.kinds ++ kind :: rest = longer.kinds) : kind = .dot := by
  rw [kinds, kinds, List.append_assoc, List.cons_append] at h
  obtain ⟨-, hright⟩ := append_cons_inj_of_not_mem key.left.equals_not_mem_kinds
    longer.left.equals_not_mem_kinds h
  exact ColumnReference.eq_dot_of_kinds_append hright

theorem KeyCondition.kindsOf_written (h : ∀ kind ∈ key.kinds, kind.IsLexeme) :
    kindsOf key.written.toList = key.kinds := by
  have htext : key.written.toList =
      key.left.written.toList ++ ([' '] ++ '=' :: ([' '] ++ key.right.written.toList)) := by
    simp [written, String.toList_append]
  have hleft := ColumnReference.kindsOf_written fun kind hkind =>
    h kind (List.mem_append_left _ hkind)
  have hright := ColumnReference.kindsOf_written fun kind hkind =>
    h kind (List.mem_append_right _ (List.mem_cons_of_mem _ hkind))
  have hsign (text : List Char) : kindsOf ('=' :: text) = .equals :: kindsOf text :=
    kindsOf_mark_cons (by decide) (by decide) text
  rw [htext, kindsOf_append_blank_append _ isBlankText_space (by simp), hsign,
    kindsOf_blank_append isBlankText_space, hleft, hright]
  rfl

/-! ## The condition of a statement -/

theorem isLexeme_of_mem_kindsOf {text : List Char} (h : kind ∈ kindsOf text) : kind.IsLexeme := by
  obtain ⟨token, htoken, rfl⟩ := List.mem_map.mp h
  exact (layout_tokensFrom 0 text).isLexeme token htoken

theorem keyCondition?_eq_some_iff_of_recognizeJoin?
    (h : recognizeJoin? columns statement = some query) :
    query.keyCondition? = some key ↔ kindsOf query.conditionText.toList = key.kinds := by
  rw [keyCondition?_of_recognizeJoin? h, keyCondition?_eq_some_iff]
  rfl

/-- The key condition of a query is its whole condition, column by column, and a condition of
another form has none. -/
theorem recognizeJoin?_key_condition (h : recognizeJoin? columns statement = some query) :
    ∃ index, let kinds := bodyKinds (kindsOf statement.toList)
      let condition := kinds.drop (index + 6)
      IsJoinStatement kinds index query.leftRelation.toList query.rightRelation.toList ∧
      kindsOf query.conditionText.toList = condition ∧
      (query.keyCondition?.isSome = true ↔
        ∃ left right, IsColumn left ∧ IsColumn right ∧ condition = left ++ .equals :: right) ∧
      (∀ key, query.keyCondition? = some key ↔ condition = key.kinds) ∧
      (∀ key, query.keyCondition? = some key →
        kindsOf key.written.toList = kindsOf query.conditionText.toList) ∧
      (7 < condition.length → query.keyCondition? = none) ∧
      (condition.count .equals ≠ 1 → query.keyCondition? = none) ∧
      (∀ kind ∈ condition, (∀ text, kind ≠ .word text) → kind ≠ .dot → kind ≠ .equals →
        query.keyCondition? = none) ∧
      ∀ key kind rest, condition = KeyCondition.kinds key ++ kind :: rest → kind ≠ .dot →
        query.keyCondition? = none := by
  obtain ⟨index, hcut⟩ := exists_cutFrom_of_recognizeJoin? h
  refine ⟨index, hcut.isStatement, hcut.condition, ?_⟩
  rw [← hcut.condition]
  have hkey (key : KeyCondition) : query.keyCondition? = some key ↔ _ :=
    keyCondition?_eq_some_iff_of_recognizeJoin? h
  refine ⟨?_, hkey, fun key hsome => ?_, fun hlong => ?_, fun hcount => ?_,
    fun kind hkind hword hdot hequals => ?_, fun key kind rest hcondition hdot => ?_⟩
  · rw [Option.isSome_iff_exists]
    constructor
    · rintro ⟨key, hsome⟩
      exact ⟨key.left.kinds, key.right.kinds, key.left.isColumn_kinds, key.right.isColumn_kinds,
        (hkey key).mp hsome⟩
    · rintro ⟨left, right, hleft, hright, hcondition⟩
      obtain ⟨leftColumn, rfl⟩ := hleft.exists_reference
      obtain ⟨rightColumn, rfl⟩ := hright.exists_reference
      exact ⟨⟨leftColumn, rightColumn⟩, (hkey _).mpr hcondition⟩
  · have hcondition := (hkey key).mp hsome
    rw [hcondition]
    apply KeyCondition.kindsOf_written
    intro kind hkind
    rw [← hcondition] at hkind
    exact isLexeme_of_mem_kindsOf hkind
  all_goals
    by_contra hsome
    obtain ⟨found, hfound⟩ := Option.ne_none_iff_exists'.mp hsome
    rw [hkey found] at hfound
  · rw [hfound] at hlong
    exact absurd hlong (Nat.not_lt.mpr found.length_kinds_le)
  · rw [hfound] at hcount
    exact hcount found.count_equals_kinds
  · rw [hfound] at hkind
    rcases KeyCondition.kinds_cases hkind with ⟨text, htext⟩ | h | h
    · exact hword text htext
    · exact hdot h
    · exact hequals h
  · exact hdot (KeyCondition.eq_dot_of_kinds_append (hcondition.symm.trans hfound))

/-- A column named like a keyword is decoded, and a comparison, a doubled sign, a second condition
and a call are not. -/
theorem recognizeJoin?_key_condition_of_layout :
    (∃ query, recognizeJoin? {} "select * from a inner join b on A . Id=where ;" = some query ∧
      query.keyCondition? = some ⟨⟨some "A", "Id"⟩, ⟨none, "where"⟩⟩ ∧
      kindsOf "A.Id = where".toList = kindsOf query.conditionText.toList) ∧
    (∃ query, recognizeJoin? {} "SELECT * FROM a INNER JOIN b ON a.id >= b.id" = some query ∧
      query.keyCondition? = none) ∧
    (∃ query, recognizeJoin? {} "SELECT * FROM a INNER JOIN b ON a.id == b.id" = some query ∧
      query.keyCondition? = none) ∧
    (∃ query, recognizeJoin? {} "SELECT * FROM a INNER JOIN b ON a = b AND c" = some query ∧
      query.keyCondition? = none) ∧
    ∃ query, recognizeJoin? {} "SELECT * FROM a INNER JOIN b ON f(a.id) = b.id" = some query ∧
      query.keyCondition? = none := by
  let query (text : String) (key : Option KeyCondition) : JoinQuery :=
    { projection := .all
      fieldsText := "*"
      leftRelation := "a"
      rightRelation := "b"
      conditionText := text
      keyCondition? := key }
  have hdecoded : recognizeJoin? {} "select * from a inner join b on A . Id=where ;" =
      some (query "A . Id=where" (some ⟨⟨some "A", "Id"⟩, ⟨none, "where"⟩⟩)) := by
    decide +kernel
  have hsymbol : recognizeJoin? {} "SELECT * FROM a INNER JOIN b ON a.id >= b.id" =
      some (query "a.id >= b.id" none) := by
    decide +kernel
  have hdoubled : recognizeJoin? {} "SELECT * FROM a INNER JOIN b ON a.id == b.id" =
      some (query "a.id == b.id" none) := by
    decide +kernel
  have hfurther : recognizeJoin? {} "SELECT * FROM a INNER JOIN b ON a = b AND c" =
      some (query "a = b AND c" none) := by
    decide +kernel
  have hcall : recognizeJoin? {} "SELECT * FROM a INNER JOIN b ON f(a.id) = b.id" =
      some (query "f(a.id) = b.id" none) := by
    decide +kernel
  refine ⟨⟨_, hdecoded, rfl, ?_⟩, ⟨_, hsymbol, ?_⟩, ⟨_, hdoubled, ?_⟩, ⟨_, hfurther, ?_⟩,
    ⟨_, hcall, ?_⟩⟩
  · obtain ⟨index, -, -, -, -, hwritten, -⟩ := recognizeJoin?_key_condition hdecoded
    have htext : KeyCondition.written ⟨⟨some "A", "Id"⟩, ⟨none, "where"⟩⟩ = "A.Id = where" := by
      decide +kernel
    rw [← htext]
    exact hwritten _ rfl
  · obtain ⟨index, -, hcondition, -, -, -, -, -, hkind, -⟩ := recognizeJoin?_key_condition hsymbol
    rewrite [← hcondition] at hkind
    exact hkind (.symbol '>') (by decide +kernel) (by simp) (by simp) (by simp)
  · obtain ⟨index, -, hcondition, -, -, -, -, hcount, -⟩ := recognizeJoin?_key_condition hdoubled
    rewrite [← hcondition] at hcount
    exact hcount (by decide +kernel)
  · obtain ⟨index, -, hcondition, -, -, -, -, -, -, hlonger⟩ :=
      recognizeJoin?_key_condition hfurther
    rewrite [← hcondition] at hlonger
    exact hlonger ⟨⟨none, "a"⟩, ⟨none, "b"⟩⟩ (.word "AND".toList) [.word "c".toList]
      (by decide +kernel) (by simp)
  · obtain ⟨index, -, hcondition, -, -, -, hlong, -⟩ := recognizeJoin?_key_condition hcall
    rewrite [← hcondition] at hlong
    exact hlong (by decide +kernel)

end KeyJoin
