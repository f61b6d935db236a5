import KeyJoin.Proofs.ListPieces
import KeyJoin.Proofs.SimulationRun

/-!
# Items of a select list

The commas of a select list cut it into items.  A projection other than the star
is valid when every item is a reference to a column that the join has, and then
it has one field for each item.  No item that is used holds two tokens next to
each other that are neither commas nor dots, and so does no valid select list.
-/

namespace KeyJoin

variable {scope : JoinScope} {selectList item : List Token} {fields : List ResolvedField}

def selectItems (selectList : List Token) : List (List Token) :=
  selectList.splitOnP fun token => token.kind == .comma

/-! ## Resolution of the items -/

theorem JoinScope.resolveItem_cases (scope : JoinScope) (item : List Token) :
    (∃ field fault suggestion,
      scope.resolveItem item = .error (.invalid field fault suggestion)) ∨
    ∃ field, scope.resolveItem item = .ok field := by
  unfold JoinScope.resolveItem
  dsimp only
  split
  · exact .inl ⟨_, _, _, rfl⟩
  · split
    · exact .inr ⟨_, rfl⟩
    · exact .inl ⟨_, _, _, rfl⟩

theorem resolveItems_cases (scope : JoinScope) (items : List (List Token)) :
    (∃ field fault suggestion,
      resolveItems scope items = .error (.invalid field fault suggestion)) ∨
    ∃ fields, resolveItems scope items = .ok fields ∧
      List.Forall₂ (fun item field => scope.resolveItem item = .ok field) items fields := by
  induction items with
  | nil => exact .inr ⟨[], rfl, .nil⟩
  | cons item items ih =>
      unfold resolveItems
      rcases scope.resolveItem_cases item with
        ⟨field, fault, suggestion, hitem⟩ | ⟨field, hitem⟩
      · simp only [hitem]
        exact .inl ⟨field, fault, suggestion, rfl⟩
      · simp only [hitem]
        rcases ih with ⟨field', fault, suggestion, hitems⟩ | ⟨fields, hitems, hfields⟩
        · simp only [hitems]
          exact .inl ⟨field', fault, suggestion, rfl⟩
        · simp only [hitems]
          exact .inr ⟨field :: fields, rfl, .cons hitem hfields⟩

/-- A projection is the star, is refused for one of its items, or has a field for each of them. -/
theorem JoinScope.projection_cases (scope : JoinScope) (selectList : List Token) :
    (selectList.map Token.kind = [.star] ∧ scope.projection selectList = .all) ∨
    (∃ field fault suggestion,
      scope.projection selectList = .invalid field fault suggestion) ∨
    ∃ fields, scope.projection selectList = projectionOfFields fields ∧
      List.Forall₂ (fun item field => scope.resolveItem item = .ok field)
        (selectItems selectList) fields := by
  unfold JoinScope.projection
  split
  · rename_i hstar
    exact .inl ⟨hstar, rfl⟩
  · rcases resolveItems_cases scope (selectItems selectList) with
      ⟨field, fault, suggestion, hitems⟩ | ⟨fields, hitems, hfields⟩
    all_goals rw [selectItems] at hitems; simp only [hitems]
    · exact .inr (.inl ⟨field, fault, suggestion, rfl⟩)
    · exact .inr (.inr ⟨fields, rfl, hfields⟩)

/-- There is always a first item, so a list of fields that is not a single one has two. -/
theorem JoinScope.two_le_length_of_several (h : scope.projection selectList = .several fields) :
    2 ≤ fields.length := by
  rcases scope.projection_cases selectList with
    ⟨-, hall⟩ | ⟨field, fault, suggestion, hinvalid⟩ | ⟨found, hfound, hitems⟩
  · rw [hall] at h
    cases h
  · rw [hinvalid] at h
    cases h
  · have hne : found ≠ [] := by
      rintro rfl
      exact List.splitOnP_ne_nil _ selectList (List.forall₂_nil_right_iff.mp hitems)
    rw [hfound] at h
    rcases found with _ | ⟨first, _ | ⟨second, rest⟩⟩
    · exact absurd rfl hne
    · cases h
    · cases h
      simp

/-! ## Neighbours in a select list -/

/-- The tokens that separate the words of a select list. -/
def TokenKind.Separates (kind : TokenKind) : Prop :=
  kind = .comma ∨ kind = .dot

/-- Of two tokens next to each other one separates words. -/
def SeparatedPair (a b : TokenKind) : Prop :=
  a.Separates ∨ b.Separates

theorem isChain_of_splitOnP {α : Type} {R : α → α → Prop} {p : α → Bool}
    (hsplit : ∀ a b, p a = true ∨ p b = true → R a b) {list : List α}
    (hpieces : ∀ piece ∈ list.splitOnP p, piece.IsChain R) : list.IsChain R := by
  induction list with
  | nil => exact .nil
  | cons a list ih =>
      rw [List.splitOnP_cons_eq_if_modifyHead] at hpieces
      cases list with
      | nil => exact .singleton a
      | cons b rest =>
          by_cases ha : p a = true
          · rw [if_pos ha] at hpieces
            refine .cons_cons (hsplit a b (.inl ha)) (ih fun piece hpiece => ?_)
            exact hpieces piece (List.mem_cons_of_mem _ hpiece)
          · rw [if_neg ha] at hpieces
            obtain ⟨first, others, hfirst⟩ :=
              List.exists_cons_of_ne_nil (List.splitOnP_ne_nil p (b :: rest))
            rw [hfirst, List.modifyHead_cons] at hpieces
            have hchain : (a :: first).IsChain R := hpieces _ List.mem_cons_self
            refine .cons_cons ?_ (ih fun piece hpiece => ?_)
            · by_cases hb : p b = true
              · exact hsplit a b (.inr hb)
              · -- `b` opens the piece that `a` is put in front of
                rw [List.splitOnP_cons_eq_if_modifyHead, if_neg hb] at hfirst
                obtain ⟨tail, others', htail⟩ :=
                  List.exists_cons_of_ne_nil (List.splitOnP_ne_nil p rest)
                rw [htail, List.modifyHead_cons] at hfirst
                cases hfirst
                exact hchain.rel
            · rw [hfirst] at hpiece
              rcases List.mem_cons.mp hpiece with rfl | hpiece
              · exact hchain.tail
              · exact hpieces piece (List.mem_cons_of_mem _ hpiece)

theorem kinds_of_columnReference? {reference : ColumnReference}
    (h : columnReference? item = some reference) :
    (∃ column, item.map Token.kind = [.word column]) ∨
      ∃ relation column, item.map Token.kind = [.word relation, .dot, .word column] := by
  unfold columnReference? at h
  split at h
  · rename_i column hkinds
    exact .inl ⟨column, hkinds⟩
  · rename_i relation column hkinds
    exact .inr ⟨relation, column, hkinds⟩
  · cases h

theorem isChain_of_resolveItem {field : ResolvedField} (h : scope.resolveItem item = .ok field) :
    (item.map Token.kind).IsChain SeparatedPair := by
  unfold JoinScope.resolveItem at h
  dsimp only at h
  split at h
  · cases h
  · rename_i reference hreference
    rcases kinds_of_columnReference? hreference with ⟨column, hkinds⟩ | ⟨relation, column, hkinds⟩
    · rw [hkinds]
      exact .singleton _
    · rw [hkinds]
      exact .cons_cons (.inr (.inr rfl)) (.cons_cons (.inl (.inr rfl)) (.singleton _))

/-- In a valid select list no two words, and no word and a mark other than comma and dot, stand
next to each other. -/
theorem JoinScope.isChain_of_isValid (h : (scope.projection selectList).IsValid) :
    (selectList.map Token.kind).IsChain SeparatedPair := by
  rcases scope.projection_cases selectList with
    ⟨hstar, -⟩ | ⟨field, fault, suggestion, hinvalid⟩ | ⟨fields, -, hitems⟩
  · rw [hstar]
    exact .singleton _
  · exact absurd hinvalid (h field fault suggestion)
  · rw [List.isChain_map]
    refine isChain_of_splitOnP (p := fun token => token.kind == .comma) ?_ fun piece hpiece => ?_
    · rintro a b (ha | hb)
      · exact .inl (.inl (by simpa using ha))
      · exact .inr (.inl (by simpa using hb))
    · obtain ⟨field, -, hfield⟩ := exists_mem_of_forall₂ hitems.flip hpiece
      rw [← List.isChain_map]
      exact isChain_of_resolveItem hfield

end KeyJoin
