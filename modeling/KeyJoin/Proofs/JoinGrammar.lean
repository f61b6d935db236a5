import KeyJoin.JoinRecognition
import KeyJoin.Proofs.TokenLayout

/-!
# The grammar of join statements

The recognizer is characterized by positions among the kinds of the tokens.  A
list of kinds is a join statement split at `index` when it begins with `SELECT`,
reads `FROM` relation `INNER JOIN` relation `ON` at `index` and goes on, does so
at no earlier position that leaves room for a select list, and has neither a
semicolon nor a further `JOIN` or `ON` behind that.  The recognizer finds this
position and no other, and only the kinds of the tokens matter for it.
-/

namespace KeyJoin

variable {kinds : List TokenKind} {tokens : List Token} {index : Nat} {left right : List Char}

/-- The kinds without the semicolon that may end a statement. -/
def bodyKinds (kinds : List TokenKind) : List TokenKind :=
  if kinds.getLast? = some .semicolon then kinds.dropLast else kinds

theorem bodyKinds_isPrefix (kinds : List TokenKind) : bodyKinds kinds <+: kinds := by
  unfold bodyKinds
  split
  · exact List.dropLast_prefix kinds
  · exact List.prefix_rfl

theorem bodyKinds_of_not_mem {kinds : List TokenKind} (h : .semicolon ∉ kinds) :
    bodyKinds kinds = kinds := by
  unfold bodyKinds
  rw [if_neg]
  intro hlast
  exact h (List.mem_of_getLast? hlast)

theorem bodyKinds_append (a : List TokenKind) {b : List TokenKind} (hne : b ≠ []) :
    bodyKinds (a ++ b) = a ++ bodyKinds b := by
  unfold bodyKinds
  rw [List.getLast?_append_of_ne_nil a hne]
  split
  · exact List.dropLast_append_of_ne_nil hne
  · rfl

/-- At `index` the kinds read `FROM left INNER JOIN right ON`, and something follows. -/
structure JoinsAt (kinds : List TokenKind) (index : Nat) (left right : List Char) : Prop where
  fromClause : kinds[index]?.any (TokenKind.isKeyword .fromClause) = true
  left : kinds[index + 1]? = some (.word left)
  inner : kinds[index + 2]?.any (TokenKind.isKeyword .inner) = true
  join : kinds[index + 3]?.any (TokenKind.isKeyword .join) = true
  right : kinds[index + 4]? = some (.word right)
  on : kinds[index + 5]?.any (TokenKind.isKeyword .on) = true
  condition : index + 6 < kinds.length

/-- The kinds are one statement that joins `left` and `right` and no third relation, with the
select list before `index` and the condition six tokens behind it. -/
structure IsJoinStatement (kinds : List TokenKind) (index : Nat) (left right : List Char) :
    Prop where
  single : .semicolon ∉ kinds
  select : kinds[0]?.any (TokenKind.isKeyword .select) = true
  selectList : 2 ≤ index
  joins : JoinsAt kinds index left right
  least : ∀ earlier, 2 ≤ earlier → earlier < index →
    ∀ other another, ¬ JoinsAt kinds earlier other another
  twoRelations : ∀ kind ∈ kinds.drop (index + 6),
    kind.isKeyword .join = false ∧ kind.isKeyword .on = false

/-- No other position of the kinds splits them into a join statement. -/
theorem IsJoinStatement.index_unique {left' right' : List Char} {index' : Nat}
    (h : IsJoinStatement kinds index left right)
    (h' : IsJoinStatement kinds index' left' right') : index = index' := by
  rcases Nat.lt_trichotomy index index' with hlt | heq | hlt
  · exact absurd h.joins (h'.least index h.selectList hlt left right)
  · exact heq
  · exact absurd h'.joins (h.least index' h'.selectList hlt left' right')

theorem TokenKind.isKeyword_iff {kind : TokenKind} {keyword : Keyword} :
    kind.isKeyword keyword = true ↔
      ∃ text, kind = .word text ∧ text.map Char.toUpper = keyword.letters := by
  unfold TokenKind.isKeyword
  cases kind <;> simp

theorem any_isKeyword_iff {kind? : Option TokenKind} {keyword : Keyword} :
    kind?.any (TokenKind.isKeyword keyword) = true ↔
      ∃ text, kind? = some (.word text) ∧ text.map Char.toUpper = keyword.letters := by
  cases kind? with
  | none => simp
  | some kind => simpa using TokenKind.isKeyword_iff

theorem joinsAt_drop (count : Nat) :
    JoinsAt (kinds.drop count) index left right ↔ JoinsAt kinds (count + index) left right := by
  constructor
  · rintro ⟨hfrom, hleft, hinner, hjoin, hright, hon, hcondition⟩
    simp only [List.getElem?_drop, List.length_drop, ← Nat.add_assoc] at *
    exact ⟨hfrom, hleft, hinner, hjoin, hright, hon, by omega⟩
  · rintro ⟨hfrom, hleft, hinner, hjoin, hright, hon, hcondition⟩
    constructor <;> simp only [List.getElem?_drop, List.length_drop, ← Nat.add_assoc]
    all_goals first | assumption | omega

/-! ## The clause behind the select list -/

theorem Token.word?_eq_some_iff {token : Token} {text : List Char} :
    token.word? = some text ↔ token.kind = .word text := by
  unfold Token.word?
  cases token.kind <;> simp

theorem exists_clause_of_length (hlength : 6 < tokens.length) :
    ∃ fromWord left inner join right on token condition,
      tokens = fromWord :: left :: inner :: join :: right :: on :: token :: condition := by
  rcases tokens with
    _ | ⟨a, _ | ⟨b, _ | ⟨c, _ | ⟨d, _ | ⟨e, _ | ⟨f, _ | ⟨g, rest⟩⟩⟩⟩⟩⟩⟩
  on_goal 8 => exact ⟨a, b, c, d, e, f, g, rest, rfl⟩
  all_goals simp at hlength

theorem joinClause?_eq_none_of_length (hlength : tokens.length ≤ 6) :
    joinClause? tokens = none := by
  unfold joinClause?
  split
  · simp only [List.length_cons] at hlength
    omega
  · rfl

theorem joinClause?_eq_some_iff {clause : JoinClause} :
    joinClause? tokens = some clause ↔
      JoinsAt (tokens.map Token.kind) 0 clause.left clause.right ∧
        clause.condition = tokens.drop 6 := by
  by_cases hlength : tokens.length ≤ 6
  · constructor
    · intro h
      rw [joinClause?_eq_none_of_length hlength] at h
      cases h
    · rintro ⟨hjoins, -⟩
      have hcondition := hjoins.condition
      simp only [List.length_map] at hcondition
      omega
  · obtain ⟨fromWord, leftWord, inner, join, rightWord, on, token, condition, rfl⟩ :=
      exists_clause_of_length (Nat.lt_of_not_le hlength)
    constructor
    · intro h
      simp only [joinClause?] at h
      split at h
      · rename_i leftText rightText hleft hright
        split at h
        · rename_i hwords
          simp only [Bool.and_eq_true] at hwords
          obtain ⟨⟨⟨hfrom, hinner⟩, hjoin⟩, hon⟩ := hwords
          rw [Token.word?_eq_some_iff] at hleft hright
          cases h
          refine ⟨⟨hfrom, ?_, hinner, hjoin, ?_, hon, ?_⟩, rfl⟩ <;> simp [hleft, hright]
        · cases h
      · cases h
    · rintro ⟨⟨hfrom, hleft, hinner, hjoin, hright, hon, -⟩, hcondition⟩
      have hleft' : leftWord.word? = some clause.left :=
        Token.word?_eq_some_iff.mpr (by simpa using hleft)
      have hright' : rightWord.word? = some clause.right :=
        Token.word?_eq_some_iff.mpr (by simpa using hright)
      have hwords : (fromWord.isKeyword .fromClause && inner.isKeyword .inner &&
          join.isKeyword .join && on.isKeyword .on) = true := by
        simp only [Bool.and_eq_true]
        exact ⟨⟨⟨hfrom, hinner⟩, hjoin⟩, hon⟩
      have hrest : clause.condition = token :: condition := hcondition
      simp only [joinClause?, hleft', hright', if_pos hwords, ← hrest]

theorem joinClause?_drop_eq_some_iff {clause : JoinClause} :
    joinClause? (tokens.drop index) = some clause ↔
      JoinsAt (tokens.map Token.kind) index clause.left clause.right ∧
        clause.condition = tokens.drop (index + 6) := by
  rw [joinClause?_eq_some_iff, List.map_drop, joinsAt_drop, List.drop_drop]
  simp

theorem joinClause?_drop_eq_none_iff :
    joinClause? (tokens.drop index) = none ↔
      ∀ left right, ¬ JoinsAt (tokens.map Token.kind) index left right := by
  rw [Option.eq_none_iff_forall_ne_some]
  constructor
  · intro hnone left right hjoins
    have hsome : joinClause? (tokens.drop index) =
        some ⟨left, right, tokens.drop (index + 6)⟩ :=
      joinClause?_drop_eq_some_iff.mpr ⟨hjoins, rfl⟩
    exact hnone _ hsome
  · intro hnone clause hsome
    exact hnone _ _ (joinClause?_drop_eq_some_iff.mp hsome).1

/-! ## The first clause -/

/-- The select list stops at the first position at which a clause can be read. -/
theorem splitAtJoinClause?_eq_some_iff {before : List Token} {clause : JoinClause} :
    splitAtJoinClause? tokens = some (before, clause) ↔
      ∃ index, before = tokens.take index ∧ joinClause? (tokens.drop index) = some clause ∧
        ∀ earlier < index, joinClause? (tokens.drop earlier) = none := by
  induction tokens generalizing before with
  | nil => simp [splitAtJoinClause?, joinClause?]
  | cons token tokens ih =>
      cases hclause : joinClause? (token :: tokens) with
      | some here =>
          simp only [splitAtJoinClause?, hclause, Option.some.injEq, Prod.mk.injEq]
          constructor
          · rintro ⟨rfl, rfl⟩
            exact ⟨0, rfl, hclause, by simp⟩
          · rintro ⟨index, rfl, hsome, hearlier⟩
            cases index with
            | zero =>
                rw [List.drop_zero, hclause] at hsome
                exact ⟨rfl, Option.some.inj hsome⟩
            | succ index =>
                have hnone := hearlier 0 (by omega)
                rw [List.drop_zero, hclause] at hnone
                cases hnone
      | none =>
          simp only [splitAtJoinClause?, hclause, Option.map_eq_some_iff, Prod.exists,
            Prod.mk.injEq]
          constructor
          · rintro ⟨rest, found, hrest, rfl, rfl⟩
            obtain ⟨index, rfl, hsome, hearlier⟩ := ih.mp hrest
            refine ⟨index + 1, rfl, hsome, fun earlier hlt => ?_⟩
            cases earlier with
            | zero => exact hclause
            | succ earlier => exact hearlier earlier (by omega)
          · rintro ⟨index, rfl, hsome, hearlier⟩
            cases index with
            | zero =>
                rw [List.drop_zero, hclause] at hsome
                cases hsome
            | succ index =>
                refine ⟨tokens.take index, clause, ih.mpr ⟨index, rfl, hsome, ?_⟩, rfl, rfl⟩
                exact fun earlier hlt => hearlier (earlier + 1) (by omega)

theorem joinStatementOf?_eq_some_iff {statement : JoinStatement} :
    joinStatementOf? tokens = some statement ↔
      (tokens.map Token.kind)[0]?.any (TokenKind.isKeyword .select) = true ∧
        ∃ index, 2 ≤ index ∧ statement.selectList = (tokens.take index).drop 1 ∧
          joinClause? (tokens.drop index) = some statement.clause ∧
          (∀ earlier, 2 ≤ earlier → earlier < index →
            joinClause? (tokens.drop earlier) = none) ∧
          ∀ token ∈ statement.clause.condition,
            token.isKeyword .join = false ∧ token.isKeyword .on = false := by
  rcases tokens with _ | ⟨select, _ | ⟨first, rest⟩⟩
  · simp [joinStatementOf?]
  · have hnone : ∀ index, joinClause? ([select].drop index) = none :=
      fun index => joinClause?_eq_none_of_length (by simp; omega)
    simp [joinStatementOf?, hnone]
  · constructor
    · intro h
      simp only [joinStatementOf?] at h
      split at h
      · rename_i hselect
        refine ⟨hselect, ?_⟩
        split at h
        · cases h
        · rename_i before clause hsplit
          split at h
          · cases h
          · rename_i hthird
            cases h
            obtain ⟨index, rfl, hclause, hearlier⟩ := splitAtJoinClause?_eq_some_iff.mp hsplit
            refine ⟨index + 2, by omega, rfl, hclause, fun earlier hle hlt => ?_, ?_⟩
            · obtain ⟨earlier, rfl⟩ := Nat.exists_eq_add_of_le' hle
              exact hearlier earlier (by omega)
            · simpa using hthird
      · cases h
    · rintro ⟨hselect, index, hle, hlist, hclause, hearlier, hthird⟩
      obtain ⟨index, rfl⟩ := Nat.exists_eq_add_of_le' hle
      have hsplit : splitAtJoinClause? rest = some (rest.take index, statement.clause) := by
        refine splitAtJoinClause?_eq_some_iff.mpr ⟨index, rfl, hclause, fun earlier hlt => ?_⟩
        exact hearlier (earlier + 2) (by omega) (by omega)
      have hselect' : select.isKeyword .select = true := hselect
      have hlist' : statement.selectList = first :: rest.take index := hlist
      have hthird' : (statement.clause.condition.any fun token =>
          token.isKeyword .join || token.isKeyword .on) = false := by
        simpa using hthird
      simp only [joinStatementOf?, if_pos hselect', hsplit, hthird', Bool.false_eq_true, if_false]
      rw [← hlist']

theorem map_withoutFinalSemicolon (tokens : List Token) :
    (withoutFinalSemicolon tokens).map Token.kind = bodyKinds (tokens.map Token.kind) := by
  unfold withoutFinalSemicolon bodyKinds
  rw [List.getLast?_map]
  split
  · exact List.map_dropLast
  · rfl

theorem withoutFinalSemicolon_of_not_mem {tokens : List Token}
    (h : .semicolon ∉ tokens.map Token.kind) : withoutFinalSemicolon tokens = tokens := by
  unfold withoutFinalSemicolon
  rw [if_neg]
  intro hlast
  obtain ⟨token, htoken, hkind⟩ := Option.map_eq_some_iff.mp hlast
  rw [← hkind] at h
  exact h (List.mem_map_of_mem (List.mem_of_getLast? htoken))

theorem withoutFinalSemicolon_append (a : List Token) {b : List Token} (hne : b ≠ []) :
    withoutFinalSemicolon (a ++ b) = a ++ withoutFinalSemicolon b := by
  unfold withoutFinalSemicolon
  rw [List.getLast?_append_of_ne_nil a hne]
  split
  · exact List.dropLast_append_of_ne_nil hne
  · rfl

/-- A recognized statement is the body of the tokens, split at the position that its kinds
determine. -/
theorem joinStatement?_eq_some_iff {statement : JoinStatement} :
    joinStatement? tokens = some statement ↔
      ∃ index,
        IsJoinStatement (bodyKinds (tokens.map Token.kind)) index
          statement.clause.left statement.clause.right ∧
        statement.selectList = ((withoutFinalSemicolon tokens).take index).drop 1 ∧
        statement.clause.condition = (withoutFinalSemicolon tokens).drop (index + 6) := by
  rw [← map_withoutFinalSemicolon]
  generalize hbody : withoutFinalSemicolon tokens = body
  have hsingle : (body.any fun token => token.kind == .semicolon) = true ↔
      .semicolon ∈ body.map Token.kind := by
    simp only [List.any_eq_true, beq_iff_eq, List.mem_map]
  constructor
  · intro h
    simp only [joinStatement?, hbody] at h
    split at h
    · cases h
    · rename_i hnone
      rw [hsingle] at hnone
      obtain ⟨hselect, index, hle, hlist, hclause, hearlier, hthird⟩ :=
        joinStatementOf?_eq_some_iff.mp h
      obtain ⟨hjoins, hcondition⟩ := joinClause?_drop_eq_some_iff.mp hclause
      refine ⟨index, ⟨hnone, hselect, hle, hjoins, fun earlier hge hlt => ?_, ?_⟩, hlist,
        hcondition⟩
      · exact joinClause?_drop_eq_none_iff.mp (hearlier earlier hge hlt)
      · intro kind hkind
        rw [← List.map_drop, ← hcondition] at hkind
        obtain ⟨token, htoken, rfl⟩ := List.mem_map.mp hkind
        exact hthird token htoken
  · rintro ⟨index, hstatement, hlist, hcondition⟩
    have hnone : ¬ (body.any fun token => token.kind == .semicolon) = true := by
      rw [hsingle]
      exact hstatement.single
    simp only [joinStatement?, hbody, if_neg hnone]
    refine joinStatementOf?_eq_some_iff.mpr
      ⟨hstatement.select, index, hstatement.selectList, hlist, ?_, ?_, ?_⟩
    · exact joinClause?_drop_eq_some_iff.mpr ⟨hstatement.joins, hcondition⟩
    · intro earlier hge hlt
      exact joinClause?_drop_eq_none_iff.mpr (hstatement.least earlier hge hlt)
    · intro token htoken
      apply hstatement.twoRelations token.kind
      rw [← List.map_drop, ← hcondition]
      exact List.mem_map_of_mem htoken

end KeyJoin
