import KeyJoin.Proofs.CommaJoin
import KeyJoin.Proofs.NameSpelling
import KeyJoin.Proofs.ResolutionByKinds

/-!
# Qualified names of fields

A field that a select list resolves to is bound to a column of its side, in the
spelling which that column has first there.  Its qualified name is a word, a dot
and a word, and resolves to the same field again.  The one exception is a field
on the right side of a relation joined with itself: it has no name that is not
taken for a column on the left.
-/

namespace KeyJoin

def Projection.fields : Projection → List ResolvedField
  | all => []
  | single field => [field]
  | several fields => fields
  | invalid .. => []

/-- A relation is joined with itself, up to the case of its name, and one of the fields is on the
right side. -/
def HidesField (left right : String) (fields : List ResolvedField) : Prop :=
  sameIgnoringCase left right = true ∧ ∃ field ∈ fields, field.side = .right

variable {columns : ColumnNames} {statement : String} {query : JoinQuery} {scope : JoinScope}
  {field : ResolvedField} {fields : List ResolvedField}

/-! ## Bound fields -/

/-- The field is a column of its side in the spelling it has there, and no column of the left side
is meant where the right relation goes by the name of the left one. -/
structure ResolvedField.BoundIn (field : ResolvedField) (scope : JoinScope) : Prop where
  relation : field.relation = scope.relation field.side
  column : findColumn? field.column (scope.columns.onSide field.side) =
    some (field.position, field.column)
  lexeme : (TokenKind.word field.column.toList).IsLexeme
  hidden : field.side = .right → sameIgnoringCase scope.left scope.right = true →
    findColumn? field.column scope.columns.left = none

theorem JoinScope.bind?_eq_some_iff {side : Side} {column : String} :
    scope.bind? side column = some field ↔
      findColumn? column (scope.columns.onSide side) = some (field.position, field.column) ∧
        field.relation = scope.relation side ∧ field.side = side := by
  obtain ⟨relation, name, side', position⟩ := field
  simp only [JoinScope.bind?, Option.map_eq_some_iff, Prod.exists, ResolvedField.mk.injEq]
  constructor
  · rintro ⟨position, name, hfound, rfl, rfl, rfl, rfl⟩
    exact ⟨hfound, rfl, rfl⟩
  · rintro ⟨hfound, rfl, rfl⟩
    exact ⟨position, name, hfound, rfl, rfl, rfl, rfl⟩

theorem JoinScope.sideOf?_eq_right {qualifier : String}
    (h : scope.sideOf? qualifier = some .right) :
    sameIgnoringCase qualifier scope.left = false ∧
      sameIgnoringCase qualifier scope.right = true := by
  unfold JoinScope.sideOf? at h
  split at h
  · cases h
  · rename_i hleft
    split at h
    · rename_i hright
      exact ⟨by simpa using hleft, hright⟩
    · cases h

/-- A reference that resolves finds its column, and finds the left side first. -/
theorem JoinScope.bind?_of_resolve {reference : ColumnReference}
    (h : scope.resolve reference = .ok field) :
    scope.bind? field.side reference.column = some field ∧
      (field.side = .right → sameIgnoringCase scope.left scope.right = true →
        findColumn? reference.column scope.columns.left = none) := by
  unfold JoinScope.resolve at h
  split at h
  · -- a qualifier that names both relations stands for the left one
    rename_i qualifier _
    split at h
    · cases h
    · rename_i side hside
      split at h
      · rename_i found hfound
        cases h
        have hfield := (JoinScope.bind?_eq_some_iff.mp hfound).2.2
        rw [hfield]
        refine ⟨hfound, fun hright hsame => ?_⟩
        rw [hright] at hside
        obtain ⟨hleft, hright⟩ := JoinScope.sideOf?_eq_right hside
        rw [sameIgnoringCase_congr hsame, hright] at hleft
        cases hleft
      · cases h
  · -- a bare column is on exactly one side
    split at h
    · rename_i found hfound hnone
      cases h
      have hfield := (JoinScope.bind?_eq_some_iff.mp hfound).2.2
      rw [hfield]
      exact ⟨hfound, fun hright => by cases hright⟩
    · rename_i found hnone hfound
      cases h
      have hfield := (JoinScope.bind?_eq_some_iff.mp hfound).2.2
      rw [hfield]
      refine ⟨hfound, fun _ _ => ?_⟩
      rw [JoinScope.bind?, Option.map_eq_none_iff] at hnone
      exact hnone
    · cases h
    · cases h

theorem ResolvedField.boundIn_of_resolve {reference : ColumnReference}
    (h : scope.resolve reference = .ok field)
    (hlexeme : (TokenKind.word reference.column.toList).IsLexeme) : field.BoundIn scope := by
  obtain ⟨hbind, hhidden⟩ := JoinScope.bind?_of_resolve h
  obtain ⟨hfound, hrelation, -⟩ := JoinScope.bind?_eq_some_iff.mp hbind
  have hsame := sameIgnoringCase_of_findColumn? hfound
  refine ⟨hrelation, findColumn?_own hfound, ?_, fun hright hself => ?_⟩
  · rw [sameIgnoringCase_comm] at hsame
    exact hlexeme.of_sameIgnoringCase hsame
  · rw [findColumn?_congr hsame]
    exact hhidden hright hself

theorem ResolvedField.boundIn_of_resolveItem {item : List Token}
    (h : scope.resolveItem item = .ok field) (hitem : ∀ token ∈ item, token.kind.IsLexeme) :
    field.BoundIn scope := by
  unfold JoinScope.resolveItem at h
  dsimp only at h
  split at h
  · cases h
  · rename_i reference hreference
    split at h
    · rename_i found hfound
      cases h
      refine ResolvedField.boundIn_of_resolve hfound ?_
      have hkinds : ∀ kind ∈ item.map Token.kind, kind.IsLexeme := by
        simpa using hitem
      unfold columnReference? at hreference
      split at hreference
      · rename_i column hcolumn
        cases hreference
        rw [hcolumn] at hkinds
        simpa using hkinds
      · rename_i relation column hcolumn
        cases hreference
        rw [hcolumn] at hkinds
        have hword := hkinds (.word column) (by simp)
        simpa using hword
      · cases hreference
    · cases h

theorem fields_projectionOfFields (fields : List ResolvedField) :
    (projectionOfFields fields).fields = fields := by
  unfold projectionOfFields
  split <;> rfl

/-- A query that is not refused projects everything, or fields that are bound. -/
theorem projection_cases_of_isValid (h : recognizeJoin? columns statement = some query)
    (hvalid : query.projection.IsValid) :
    query.projection = .all ∨
    ∃ fields, fields ≠ [] ∧ query.projection = projectionOfFields fields ∧
      ∀ field ∈ fields,
        field.BoundIn ⟨columns, query.leftRelation, query.rightRelation⟩ := by
  obtain ⟨index, left, right, parts, ending, hread, rfl⟩ := exists_read_of_recognizeJoin? h
  have hlexemes : ∀ token ∈ parts.selectList, token.kind.IsLexeme := by
    intro token htoken
    refine hread.isLexeme ?_
    simp [StatementParts.body, htoken]
  simp only [JoinStatement.toQuery] at hvalid ⊢
  generalize (⟨columns, String.ofList left, String.ofList right⟩ : JoinScope) = scope
    at hvalid ⊢
  rcases scope.projection_cases parts.selectList with
    ⟨-, hall⟩ | ⟨field, fault, suggestion, hinvalid⟩ | ⟨fields, hfields, hitems⟩
  · exact .inl hall
  · exact absurd hinvalid (hvalid field fault suggestion)
  · refine .inr ⟨fields, ?_, hfields, fun field hfield => ?_⟩
    · rintro rfl
      exact List.splitOnP_ne_nil _ parts.selectList (List.forall₂_nil_right_iff.mp hitems)
    · obtain ⟨item, hitem, hresolve⟩ := exists_mem_of_forall₂ hitems hfield
      refine ResolvedField.boundIn_of_resolveItem hresolve fun token htoken => ?_
      exact hlexemes token (mem_of_mem_splitOnP hitem htoken).1

/-! ## Tokens of a label -/

def ResolvedField.qualifiedKinds (field : ResolvedField) : List TokenKind :=
  [.word field.relation.toList, .dot, .word field.column.toList]

def fieldKinds (fields : List ResolvedField) : List TokenKind :=
  [TokenKind.comma].intercalate (fields.map ResolvedField.qualifiedKinds)

theorem kindsOf_qualifiedName (hrelation : (TokenKind.word field.relation.toList).IsLexeme)
    (hcolumn : (TokenKind.word field.column.toList).IsLexeme) :
    kindsOf field.qualifiedName.toList = field.qualifiedKinds := by
  have hdot : kindsOf (field.relation.toList ++ '.' :: field.column.toList) =
      kindsOf field.relation.toList ++ .dot :: kindsOf field.column.toList :=
    kindsOf_append_mark_cons _ (by decide) (by decide) _
  have htext : field.qualifiedName.toList =
      field.relation.toList ++ '.' :: field.column.toList := by
    simp [ResolvedField.qualifiedName, String.toList_append]
  rw [htext, hdot, kindsOf_word hrelation, kindsOf_word hcolumn]
  rfl

theorem kindsOf_intercalate_comma (pieces : List (List Char)) :
    kindsOf ([',', ' '].intercalate pieces) =
      [TokenKind.comma].intercalate (pieces.map kindsOf) := by
  induction pieces with
  | nil => rfl
  | cons piece rest ih =>
      cases rest with
      | nil => simp
      | cons next rest =>
          have hcomma (text : List Char) : kindsOf (piece ++ ([',', ' '] ++ text)) =
              kindsOf piece ++ .comma :: kindsOf text := by
            have hmark : kindsOf (piece ++ ',' :: ([' '] ++ text)) =
                kindsOf piece ++ .comma :: kindsOf ([' '] ++ text) :=
              kindsOf_append_mark_cons piece (by decide) (by decide) _
            rw [kindsOf_blank_append isBlankText_space] at hmark
            exact hmark
          rw [List.intercalate_cons_cons, List.append_assoc, hcomma, ih]
          simp [List.intercalate_cons_cons]

theorem label_projectionOfFields (fields : List ResolvedField) :
    (projectionOfFields fields).label =
      String.intercalate ", " (fields.map ResolvedField.qualifiedName) := by
  unfold projectionOfFields
  split
  · simp [Projection.label]
  · rfl

theorem JoinScope.isLexeme_relation (hleft : (TokenKind.word scope.left.toList).IsLexeme)
    (hright : (TokenKind.word scope.right.toList).IsLexeme) (side : Side) :
    (TokenKind.word (scope.relation side).toList).IsLexeme := by
  cases side with
  | left => exact hleft
  | right => exact hright

theorem kindsOf_label (hfields : ∀ field ∈ fields, field.BoundIn scope)
    (hleft : (TokenKind.word scope.left.toList).IsLexeme)
    (hright : (TokenKind.word scope.right.toList).IsLexeme) :
    kindsOf (projectionOfFields fields).label.toList = fieldKinds fields := by
  have hnames : ∀ field ∈ fields, kindsOf field.qualifiedName.toList = field.qualifiedKinds := by
    intro field hfield
    have hbound := hfields field hfield
    refine kindsOf_qualifiedName ?_ hbound.lexeme
    rw [hbound.relation]
    exact JoinScope.isLexeme_relation hleft hright field.side
  rw [label_projectionOfFields, String.toList_intercalate]
  refine (kindsOf_intercalate_comma _).trans ?_
  rw [fieldKinds, List.map_map, List.map_map]
  exact congrArg _ (List.map_congr_left hnames)

theorem comma_not_mem_qualifiedKinds (field : ResolvedField) :
    .comma ∉ field.qualifiedKinds := by
  simp [ResolvedField.qualifiedKinds]

theorem splitOn_fieldKinds (hne : fields ≠ []) :
    (fieldKinds fields).splitOn .comma = fields.map ResolvedField.qualifiedKinds := by
  refine List.splitOn_intercalate _ ?_ (by simpa using hne)
  intro piece hpiece
  obtain ⟨field, -, rfl⟩ := List.mem_map.mp hpiece
  exact comma_not_mem_qualifiedKinds field

theorem three_le_length_fieldKinds (hne : fields ≠ []) : 3 ≤ (fieldKinds fields).length := by
  cases fields with
  | nil => exact absurd rfl hne
  | cons first rest =>
      cases rest with
      | nil => simp [fieldKinds, ResolvedField.qualifiedKinds]
      | cons second rest =>
          simp only [fieldKinds, List.map_cons, List.intercalate_cons_cons, List.length_append,
            ResolvedField.qualifiedKinds, List.length_cons]
          omega

theorem semicolon_not_mem_fieldKinds (fields : List ResolvedField) :
    .semicolon ∉ fieldKinds fields := by
  intro hmem
  rcases mem_intercalate hmem with hcomma | ⟨piece, hpiece, hmem⟩
  · simp at hcomma
  · obtain ⟨field, -, rfl⟩ := List.mem_map.mp hpiece
    simp [ResolvedField.qualifiedKinds] at hmem

theorem isChain_fieldKinds (hne : fields ≠ []) : (fieldKinds fields).IsChain SeparatedPair := by
  refine isChain_of_splitOnP (p := fun kind => kind == .comma) ?_ fun piece hpiece => ?_
  · rintro a b (ha | hb)
    · exact .inl (.inl (by simpa using ha))
    · exact .inr (.inl (by simpa using hb))
  · have hmem : piece ∈ fields.map ResolvedField.qualifiedKinds := by
      rw [← splitOn_fieldKinds hne]
      exact hpiece
    obtain ⟨field, -, rfl⟩ := List.mem_map.mp hmem
    exact .cons_cons (.inr (.inr rfl)) (.cons_cons (.inl (.inr rfl)) (.singleton _))

/-! ## Resolution of a label -/

theorem columnReference?_of_qualifiedKinds {item : List Token}
    (h : item.map Token.kind = field.qualifiedKinds) :
    columnReference? item = some ⟨some field.relation, field.column⟩ := by
  simp only [columnReference?, h, ResolvedField.qualifiedKinds, String.ofList_toList]

theorem JoinScope.sideOf?_relation {side : Side}
    (h : side = .right → sameIgnoringCase scope.left scope.right = false) :
    scope.sideOf? (scope.relation side) = some side := by
  cases side with
  | left => simp [JoinScope.sideOf?, JoinScope.relation, sameIgnoringCase_refl]
  | right =>
      have hother : sameIgnoringCase scope.right scope.left = false := by
        rw [sameIgnoringCase_comm]
        exact h rfl
      simp [JoinScope.sideOf?, JoinScope.relation, sameIgnoringCase_refl, hother]

theorem ResolvedField.BoundIn.resolveItem_eq (h : field.BoundIn scope) {item : List Token}
    (hitem : item.map Token.kind = field.qualifiedKinds)
    (hside : field.side = .right → sameIgnoringCase scope.left scope.right = false) :
    scope.resolveItem item = .ok field := by
  have hbind : scope.bind? field.side field.column = some field :=
    JoinScope.bind?_eq_some_iff.mpr ⟨h.column, h.relation, rfl⟩
  have hsideOf : scope.sideOf? field.relation = some field.side := by
    rw [h.relation]
    exact scope.sideOf?_relation hside
  simp only [JoinScope.resolveItem, columnReference?_of_qualifiedKinds hitem, JoinScope.resolve,
    hsideOf, hbind]

/-- In a relation joined with itself the qualified name of a field on the right is looked up on the
left, where there is no such column. -/
theorem ResolvedField.BoundIn.exists_invalid (h : field.BoundIn scope) {item : List Token}
    (hitem : item.map Token.kind = field.qualifiedKinds) (hright : field.side = .right)
    (hself : sameIgnoringCase scope.left scope.right = true) :
    ∃ name fault suggestion, scope.resolveItem item = .error (.invalid name fault suggestion) := by
  have hsideOf : scope.sideOf? field.relation = some .left := by
    have hother : sameIgnoringCase scope.right scope.left = true := by
      rw [sameIgnoringCase_comm]
      exact hself
    rw [h.relation, hright]
    simp [JoinScope.sideOf?, JoinScope.relation, hother]
  have hbind : scope.bind? .left field.column = none := by
    rw [JoinScope.bind?, Option.map_eq_none_iff]
    exact h.hidden hright hself
  simp only [JoinScope.resolveItem, columnReference?_of_qualifiedKinds hitem, JoinScope.resolve,
    hsideOf, hbind]
  exact ⟨_, _, _, rfl⟩

theorem resolveItems_of_qualifiedKinds {items : List (List Token)}
    (hitems : items.map (List.map Token.kind) = fields.map ResolvedField.qualifiedKinds)
    (hfields : ∀ field ∈ fields, field.BoundIn scope)
    (hside : ∀ field ∈ fields, field.side = .right →
      sameIgnoringCase scope.left scope.right = false) :
    resolveItems scope items = .ok fields := by
  induction fields generalizing items with
  | nil =>
      have hnil : items = [] := by simpa using hitems
      rw [hnil]
      rfl
  | cons field fields ih =>
      cases items with
      | nil => cases hitems
      | cons item items =>
          rw [List.map_cons, List.map_cons, List.cons.injEq] at hitems
          rw [List.forall_mem_cons] at hfields hside
          have hfirst := hfields.1.resolveItem_eq hitems.1 hside.1
          have hrest := ih hitems.2 hfields.2 hside.2
          simp only [resolveItems, hfirst, hrest]

theorem exists_invalid_of_hidesField {items : List (List Token)}
    (hitems : items.map (List.map Token.kind) = fields.map ResolvedField.qualifiedKinds)
    (hfields : ∀ field ∈ fields, field.BoundIn scope)
    (hhides : HidesField scope.left scope.right fields) :
    ∃ name fault suggestion,
      resolveItems scope items = .error (.invalid name fault suggestion) := by
  obtain ⟨hself, field, hfield, hright⟩ := hhides
  rcases resolveItems_cases scope items with hinvalid | ⟨found, -, hfound⟩
  · exact hinvalid
  · -- if every item were resolved, so would be the one that stands for the hidden field
    obtain ⟨item, hitem, hkinds⟩ : ∃ item ∈ items, item.map Token.kind = field.qualifiedKinds := by
      have hmem := List.mem_map_of_mem (f := ResolvedField.qualifiedKinds) hfield
      rw [← hitems] at hmem
      exact List.mem_map.mp hmem
    obtain ⟨other, -, hother⟩ := exists_mem_of_forall₂ hfound.flip hitem
    obtain ⟨name, fault, suggestion, hinvalid⟩ :=
      (hfields field hfield).exists_invalid hkinds hright hself
    have hother' : scope.resolveItem item = .ok other := hother
    rw [hinvalid] at hother'
    cases hother'

/-- A list of qualified names is resolved to the fields that it names, unless one is hidden. -/
theorem projection_of_fieldKinds (hne : fields ≠ [])
    (hfields : ∀ field ∈ fields, field.BoundIn scope) {selectList : List Token}
    (hkinds : selectList.map Token.kind = fieldKinds fields) :
    (HidesField scope.left scope.right fields →
      ∃ name fault suggestion, scope.projection selectList = .invalid name fault suggestion) ∧
    (¬ HidesField scope.left scope.right fields →
      scope.projection selectList = projectionOfFields fields) := by
  have hstar : ¬ selectList.map Token.kind = [.star] := by
    intro hstar
    have hlength := three_le_length_fieldKinds hne
    rw [← hkinds, hstar] at hlength
    simp at hlength
  have hitems : (selectItems selectList).map (List.map Token.kind) =
      fields.map ResolvedField.qualifiedKinds := by
    rw [map_kind_selectItems, hkinds, splitOn_fieldKinds hne]
  constructor
  · intro hhides
    obtain ⟨name, fault, suggestion, hinvalid⟩ :=
      exists_invalid_of_hidesField hitems hfields hhides
    rw [selectItems] at hinvalid
    refine ⟨name, fault, suggestion, ?_⟩
    simp only [JoinScope.projection, if_neg hstar, hinvalid]
  · intro hshows
    have hside : ∀ field ∈ fields, field.side = .right →
        sameIgnoringCase scope.left scope.right = false := by
      intro field hfield hright
      by_contra hself
      exact hshows ⟨by simpa using hself, field, hfield, hright⟩
    have hresolved := resolveItems_of_qualifiedKinds hitems hfields hside
    rw [selectItems] at hresolved
    simp only [JoinScope.projection, if_neg hstar, hresolved]

end KeyJoin
