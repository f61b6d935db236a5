import KeyJoin.Proofs.FurtherSelects
import KeyJoin.Proofs.QualifiedNames

/-!
# Items and the fields they name

Which field an item of a select list names can be said without looking for it.
A qualifier is the name of the left relation, or else of the right one; a bare
column is found on one side and not on the other; and what is found is the first
column of its side with this name.  An item that names no field is refused for
exactly one reason, and the first such item of a list refuses the list.
-/

namespace KeyJoin

variable {columns : ColumnNames} {statement : String} {query : JoinQuery} {scope : JoinScope}
  {side : Side} {column name qualifier written : String} {names : List String} {position : Nat}
  {item : List TokenKind} {items : List (List TokenKind)} {field : ResolvedField}
  {fields : List ResolvedField} {fault : FieldFault}

/-- `name` stands at `position` and is the first of the names that equals `column` up to case. -/
structure IsFirstNamed (names : List String) (column : String) (position : Nat) (name : String) :
    Prop where
  found : names[position]? = some name
  same : sameIgnoringCase name column = true
  first : ∀ earlier < position, ∀ other, names[earlier]? = some other →
    sameIgnoringCase other column = false

/-- The side a qualifier stands for: the left one if both relations go by this name. -/
inductive JoinScope.Qualifies (scope : JoinScope) (qualifier : String) : Side → Prop
  | left (hleft : sameIgnoringCase qualifier scope.left = true) : scope.Qualifies qualifier .left
  | right (hleft : sameIgnoringCase qualifier scope.left = false)
      (hright : sameIgnoringCase qualifier scope.right = true) : scope.Qualifies qualifier .right

def Side.opposite : Side → Side
  | left => right
  | right => left

/-- The item is a qualified or a bare column, and this is the field it means. -/
inductive JoinScope.Names (scope : JoinScope) : List TokenKind → ResolvedField → Prop
  | qualified {qualifier column : List Char} {side : Side} {position : Nat} {name : String}
      (hside : scope.Qualifies (String.ofList qualifier) side)
      (hcolumn : IsFirstNamed (scope.columns.onSide side) (String.ofList column) position name) :
      scope.Names [.word qualifier, .dot, .word column]
        ⟨scope.relation side, name, side, position⟩
  | bare {column : List Char} {side : Side} {position : Nat} {name : String}
      (hcolumn : IsFirstNamed (scope.columns.onSide side) (String.ofList column) position name)
      (hopposite : ∀ other ∈ scope.columns.onSide side.opposite,
        sameIgnoringCase other (String.ofList column) = false) :
      scope.Names [.word column] ⟨scope.relation side, name, side, position⟩

/-- Why the item names no field. -/
inductive JoinScope.Refuses (scope : JoinScope) : List TokenKind → FieldFault → Prop
  | unsupported {item : List TokenKind} (hbare : ∀ column, item ≠ [.word column])
      (hqualified : ∀ qualifier column, item ≠ [.word qualifier, .dot, .word column]) :
      scope.Refuses item .unsupportedExpression
  | foreign {qualifier column : List Char}
      (hside : ∀ side, ¬ scope.Qualifies (String.ofList qualifier) side) :
      scope.Refuses [.word qualifier, .dot, .word column]
        (.foreignRelation (String.ofList qualifier))
  | missing {qualifier column : List Char} {side : Side}
      (hside : scope.Qualifies (String.ofList qualifier) side)
      (hcolumn : ∀ name ∈ scope.columns.onSide side,
        sameIgnoringCase name (String.ofList column) = false) :
      scope.Refuses [.word qualifier, .dot, .word column]
        (.missingColumn (scope.relation side) (String.ofList column))
  | ambiguous {column : List Char}
      (hcolumn : ∀ side, ∃ name ∈ scope.columns.onSide side,
        sameIgnoringCase name (String.ofList column) = true) :
      scope.Refuses [.word column]
        (.ambiguousColumn (String.ofList column) scope.left scope.right)
  | unknown {column : List Char}
      (hcolumn : ∀ side, ∀ name ∈ scope.columns.onSide side,
        sameIgnoringCase name (String.ofList column) = false) :
      scope.Refuses [.word column] (.unknownColumn (String.ofList column))

/-- The item is refused, and every item before it names a field. -/
structure JoinScope.FirstRefused (scope : JoinScope) (items : List (List TokenKind))
    (item : List TokenKind) (fault : FieldFault) : Prop where
  place : ∃ before after, items = before ++ item :: after ∧
    ∀ earlier ∈ before, ∃ field, scope.Names earlier field
  unnamed : ∀ field, ¬ scope.Names item field
  refused : scope.Refuses item fault

/-! ## Columns -/

theorem isFirstNamed_cons_zero_iff {first : String} :
    IsFirstNamed (first :: names) column 0 name ↔
      first = name ∧ sameIgnoringCase name column = true := by
  constructor
  · rintro ⟨hfound, hsame, -⟩
    exact ⟨Option.some.inj hfound, hsame⟩
  · rintro ⟨rfl, hsame⟩
    exact ⟨rfl, hsame, fun earlier hearlier => absurd hearlier (Nat.not_lt_zero earlier)⟩

theorem isFirstNamed_cons_succ_iff {first : String} :
    IsFirstNamed (first :: names) column (position + 1) name ↔
      sameIgnoringCase first column = false ∧ IsFirstNamed names column position name := by
  constructor
  · rintro ⟨hfound, hsame, hfirst⟩
    refine ⟨hfirst 0 (Nat.succ_pos position) first rfl, hfound, hsame, ?_⟩
    intro earlier hearlier other hother
    exact hfirst (earlier + 1) (Nat.succ_lt_succ hearlier) other hother
  · rintro ⟨hhead, hfound, hsame, hfirst⟩
    refine ⟨hfound, hsame, fun earlier hearlier other hother => ?_⟩
    cases earlier with
    | zero =>
        cases hother
        exact hhead
    | succ earlier => exact hfirst earlier (Nat.lt_of_succ_lt_succ hearlier) other hother

theorem findColumn?_eq_some_iff :
    findColumn? column names = some (position, name) ↔
      IsFirstNamed names column position name := by
  induction names generalizing position with
  | nil =>
      constructor
      · intro h
        cases h
      · intro h
        cases h.found
  | cons first names ih =>
      unfold findColumn?
      cases position with
      | zero =>
          rw [isFirstNamed_cons_zero_iff]
          split
          · rename_i hsame
            rw [Option.some.injEq, Prod.mk.injEq]
            exact ⟨fun h => ⟨h.2, h.2 ▸ hsame⟩, fun h => ⟨rfl, h.1⟩⟩
          · rename_i hsame
            simp only [Option.map_eq_some_iff, Prod.exists, Prod.mk.injEq]
            constructor
            · rintro ⟨before, found, -, hposition, -⟩
              cases hposition
            · rintro ⟨rfl, h⟩
              exact absurd h hsame
      | succ position =>
          rw [isFirstNamed_cons_succ_iff, ← ih]
          split
          · rename_i hsame
            simp [hsame]
          · rename_i hsame
            simp [hsame]

theorem findColumn?_eq_none_iff :
    findColumn? column names = none ↔ ∀ name ∈ names, sameIgnoringCase name column = false := by
  induction names with
  | nil => simp [findColumn?]
  | cons first names ih =>
      rw [List.forall_mem_cons, ← ih, findColumn?]
      cases sameIgnoringCase first column <;> simp

theorem exists_isFirstNamed_or (names : List String) (column : String) :
    (∃ position name, IsFirstNamed names column position name) ∨
      ∀ name ∈ names, sameIgnoringCase name column = false := by
  cases hfound : findColumn? column names with
  | none => exact .inr (findColumn?_eq_none_iff.mp hfound)
  | some found => exact .inl ⟨found.1, found.2, findColumn?_eq_some_iff.mp hfound⟩

theorem IsFirstNamed.mem (h : IsFirstNamed names column position name) : name ∈ names :=
  List.mem_of_getElem? h.found

theorem IsFirstNamed.bind?_eq
    (h : IsFirstNamed (scope.columns.onSide side) column position name) :
    scope.bind? side column = some ⟨scope.relation side, name, side, position⟩ :=
  JoinScope.bind?_eq_some_iff.mpr ⟨findColumn?_eq_some_iff.mpr h, rfl, rfl⟩

theorem JoinScope.bind?_eq_none_iff :
    scope.bind? side column = none ↔
      ∀ name ∈ scope.columns.onSide side, sameIgnoringCase name column = false := by
  rw [JoinScope.bind?, Option.map_eq_none_iff, findColumn?_eq_none_iff]

theorem JoinScope.exists_bind?_of_exists_mem
    (h : ∃ name ∈ scope.columns.onSide side, sameIgnoringCase name column = true) :
    ∃ field, scope.bind? side column = some field := by
  refine Option.ne_none_iff_exists'.mp fun hnone => ?_
  obtain ⟨name, hmem, hsame⟩ := h
  rw [JoinScope.bind?_eq_none_iff.mp hnone name hmem] at hsame
  cases hsame

/-! ## Qualifiers -/

theorem JoinScope.sideOf?_eq_some_iff :
    scope.sideOf? qualifier = some side ↔ scope.Qualifies qualifier side := by
  constructor
  · intro h
    cases side with
    | left =>
        refine .left ?_
        by_contra hleft
        simp [JoinScope.sideOf?, hleft] at h
    | right =>
        obtain ⟨hleft, hright⟩ := JoinScope.sideOf?_eq_right h
        exact .right hleft hright
  · rintro (hleft | ⟨hleft, hright⟩)
    · simp [JoinScope.sideOf?, hleft]
    · simp [JoinScope.sideOf?, hleft, hright]

theorem JoinScope.sideOf?_eq_none_iff :
    scope.sideOf? qualifier = none ↔ ∀ side, ¬ scope.Qualifies qualifier side := by
  simp only [← JoinScope.sideOf?_eq_some_iff, Option.eq_none_iff_forall_ne_some, ne_eq]

/-! ## Items -/

/-- An item names a field, or there is a reason why it does not. -/
theorem JoinScope.names_or_refuses (scope : JoinScope) (item : List TokenKind) :
    (∃ field, scope.Names item field) ∨ ∃ fault, scope.Refuses item fault := by
  by_cases hbare : ∃ column, item = [.word column]
  · obtain ⟨column, rfl⟩ := hbare
    have hsides (side : Side) :=
      exists_isFirstNamed_or (scope.columns.onSide side) (String.ofList column)
    rcases hsides .left with ⟨position, name, hleft⟩ | hleft <;>
      rcases hsides .right with ⟨position', name', hright⟩ | hright
    · refine .inr ⟨_, .ambiguous fun side => ?_⟩
      cases side with
      | left => exact ⟨name, hleft.mem, hleft.same⟩
      | right => exact ⟨name', hright.mem, hright.same⟩
    · exact .inl ⟨_, .bare hleft hright⟩
    · exact .inl ⟨_, .bare hright hleft⟩
    · refine .inr ⟨_, .unknown fun side => ?_⟩
      cases side with
      | left => exact hleft
      | right => exact hright
  · by_cases hqualified : ∃ qualifier column, item = [.word qualifier, .dot, .word column]
    · obtain ⟨qualifier, column, rfl⟩ := hqualified
      by_cases hside : ∃ side, scope.Qualifies (String.ofList qualifier) side
      · obtain ⟨side, hside⟩ := hside
        rcases exists_isFirstNamed_or (scope.columns.onSide side) (String.ofList column) with
          ⟨position, name, hcolumn⟩ | hcolumn
        · exact .inl ⟨_, .qualified hside hcolumn⟩
        · exact .inr ⟨_, .missing hside hcolumn⟩
      · exact .inr ⟨_, .foreign (not_exists.mp hside)⟩
    · refine .inr ⟨_, .unsupported (not_exists.mp hbare) fun qualifier column hitem => ?_⟩
      exact hqualified ⟨qualifier, column, hitem⟩

theorem JoinScope.Names.resolveItem_eq {tokens : List Token}
    (h : scope.Names (tokens.map Token.kind) field) : scope.resolveItem tokens = .ok field := by
  generalize hkinds : tokens.map Token.kind = item at h
  cases h with
  | qualified hside hcolumn =>
      simp only [JoinScope.resolveItem, columnReference?, hkinds, JoinScope.resolve,
        JoinScope.sideOf?_eq_some_iff.mpr hside, hcolumn.bind?_eq]
  | @bare column side position name hcolumn hopposite =>
      have hfound := hcolumn.bind?_eq
      have hnone := JoinScope.bind?_eq_none_iff.mpr hopposite
      cases side
      all_goals
        simp only [Side.opposite] at hnone
        simp only [JoinScope.resolveItem, columnReference?, hkinds, JoinScope.resolve, hfound,
          hnone]

theorem JoinScope.Refuses.resolveItem_eq {tokens : List Token}
    (h : scope.Refuses (tokens.map Token.kind) fault) :
    ∃ suggestion, scope.resolveItem tokens =
      .error (.invalid (String.ofList (tokensText tokens)) fault suggestion) := by
  generalize hkinds : tokens.map Token.kind = item at h
  cases h with
  | unsupported hbare hqualified =>
      have hnone : columnReference? tokens = none := by
        by_contra hsome
        obtain ⟨reference, hreference⟩ := Option.ne_none_iff_exists'.mp hsome
        rcases kinds_of_columnReference? hreference with
          ⟨column, hcolumn⟩ | ⟨relation, column, hcolumn⟩
        · exact hbare column (hkinds.symm.trans hcolumn)
        · exact hqualified relation column (hkinds.symm.trans hcolumn)
      simp only [JoinScope.resolveItem, hnone]
      exact ⟨_, rfl⟩
  | foreign hside =>
      simp only [JoinScope.resolveItem, columnReference?, hkinds, JoinScope.resolve,
        JoinScope.sideOf?_eq_none_iff.mpr hside]
      exact ⟨_, rfl⟩
  | missing hside hcolumn =>
      simp only [JoinScope.resolveItem, columnReference?, hkinds, JoinScope.resolve,
        JoinScope.sideOf?_eq_some_iff.mpr hside, JoinScope.bind?_eq_none_iff.mpr hcolumn]
      exact ⟨_, rfl⟩
  | ambiguous hcolumn =>
      obtain ⟨left, hleft⟩ := JoinScope.exists_bind?_of_exists_mem (hcolumn .left)
      obtain ⟨right, hright⟩ := JoinScope.exists_bind?_of_exists_mem (hcolumn .right)
      simp only [JoinScope.resolveItem, columnReference?, hkinds, JoinScope.resolve, hleft, hright]
      exact ⟨_, rfl⟩
  | unknown hcolumn =>
      have hnone (side : Side) := JoinScope.bind?_eq_none_iff.mpr (hcolumn side)
      simp only [JoinScope.resolveItem, columnReference?, hkinds, JoinScope.resolve, hnone]
      exact ⟨_, rfl⟩

theorem JoinScope.resolveItem_eq_ok_iff {tokens : List Token} :
    scope.resolveItem tokens = .ok field ↔ scope.Names (tokens.map Token.kind) field := by
  refine ⟨fun h => ?_, JoinScope.Names.resolveItem_eq⟩
  rcases scope.names_or_refuses (tokens.map Token.kind) with ⟨found, hfound⟩ | ⟨fault, hfault⟩
  · rw [hfound.resolveItem_eq] at h
    cases h
    exact hfound
  · obtain ⟨suggestion, herror⟩ := hfault.resolveItem_eq
    rw [herror] at h
    cases h

theorem JoinScope.resolveItem_eq_error_iff {tokens : List Token} :
    (∃ suggestion, scope.resolveItem tokens = .error (.invalid written fault suggestion)) ↔
      scope.Refuses (tokens.map Token.kind) fault ∧
        written = String.ofList (tokensText tokens) := by
  constructor
  · rintro ⟨suggestion, h⟩
    rcases scope.names_or_refuses (tokens.map Token.kind) with ⟨field, hfield⟩ | ⟨fault, hfault⟩
    · rw [hfield.resolveItem_eq] at h
      cases h
    · obtain ⟨suggestion, herror⟩ := hfault.resolveItem_eq
      rw [herror] at h
      cases h
      exact ⟨hfault, rfl⟩
  · rintro ⟨hfault, rfl⟩
    exact hfault.resolveItem_eq

theorem JoinScope.Refuses.not_names (h : scope.Refuses item fault) (field : ResolvedField) :
    ¬ scope.Names item field := by
  intro hnames
  -- the kinds of an item are those of tokens that stand anywhere
  obtain ⟨tokens, rfl⟩ : ∃ tokens : List Token, tokens.map Token.kind = item :=
    ⟨item.map fun kind => ⟨kind, 0, 0⟩, by simp [Function.comp_def]⟩
  obtain ⟨suggestion, herror⟩ := h.resolveItem_eq
  rw [hnames.resolveItem_eq] at herror
  cases herror

/-! ## Lists of items -/

theorem resolveItems_eq_ok_iff {tokens : List (List Token)} :
    resolveItems scope tokens = .ok fields ↔
      List.Forall₂ scope.Names (tokens.map (List.map Token.kind)) fields := by
  induction tokens generalizing fields with
  | nil => simp [resolveItems, eq_comm]
  | cons item tokens ih =>
      rw [List.map_cons, List.forall₂_cons_left_iff]
      simp only [← JoinScope.resolveItem_eq_ok_iff, ← ih, resolveItems]
      cases scope.resolveItem item with
      | error projection => simp
      | ok field =>
          cases resolveItems scope tokens <;> simp [eq_comm]

theorem JoinScope.firstRefused_cons_of_names {other : List TokenKind}
    (h : scope.Names item field) :
    scope.FirstRefused (item :: items) other fault ↔ scope.FirstRefused items other fault := by
  constructor
  · rintro ⟨⟨before, after, hsplit, hbefore⟩, hunnamed, hrefused⟩
    cases before with
    | nil =>
        cases hsplit
        exact absurd h (hunnamed field)
    | cons first before =>
        cases hsplit
        exact ⟨⟨before, after, rfl, (List.forall_mem_cons.mp hbefore).2⟩, hunnamed, hrefused⟩
  · rintro ⟨⟨before, after, rfl, hbefore⟩, hunnamed, hrefused⟩
    refine ⟨⟨item :: before, after, rfl, ?_⟩, hunnamed, hrefused⟩
    exact List.forall_mem_cons.mpr ⟨⟨field, h⟩, hbefore⟩

theorem JoinScope.firstRefused_cons_of_refuses {other : List TokenKind} {otherFault : FieldFault}
    (h : scope.Refuses item fault) :
    scope.FirstRefused (item :: items) other otherFault ↔
      other = item ∧ scope.Refuses item otherFault := by
  constructor
  · rintro ⟨⟨before, after, hsplit, hbefore⟩, -, hrefused⟩
    cases before with
    | nil =>
        cases hsplit
        exact ⟨rfl, hrefused⟩
    | cons first before =>
        cases hsplit
        obtain ⟨field, hfield⟩ := (List.forall_mem_cons.mp hbefore).1
        exact absurd hfield (h.not_names field)
  · rintro ⟨rfl, hrefused⟩
    exact ⟨⟨[], items, rfl, List.forall_mem_nil _⟩, hrefused.not_names, hrefused⟩

theorem resolveItems_eq_error_iff {tokens : List (List Token)} :
    (∃ suggestion, resolveItems scope tokens = .error (.invalid written fault suggestion)) ↔
      ∃ item, scope.FirstRefused (tokens.map (List.map Token.kind)) item fault ∧
        written = String.ofList (item.flatMap TokenKind.text) := by
  induction tokens with
  | nil =>
      constructor
      · rintro ⟨suggestion, h⟩
        cases h
      · rintro ⟨item, ⟨⟨before, after, hsplit, -⟩, -, -⟩, -⟩
        simp at hsplit
  | cons item tokens ih =>
      rw [List.map_cons]
      -- an item that names a field is passed over, one that is refused ends the list
      rcases scope.names_or_refuses (item.map Token.kind) with ⟨field, hfield⟩ | ⟨other, hother⟩
      · simp only [JoinScope.firstRefused_cons_of_names hfield, ← ih, resolveItems,
          hfield.resolveItem_eq]
        cases resolveItems scope tokens <;> simp
      · simp only [JoinScope.firstRefused_cons_of_refuses hother, and_assoc, exists_eq_left,
          ← tokensText_eq, ← JoinScope.resolveItem_eq_error_iff, resolveItems]
        obtain ⟨suggestion, herror⟩ := hother.resolveItem_eq
        simp only [herror, Except.error.injEq]

/-! ## Select lists -/

theorem not_names_star (field : ResolvedField) : ¬ scope.Names [.star] field := by
  intro h
  cases h

theorem projectionOfFields_ne_all (fields : List ResolvedField) :
    projectionOfFields fields ≠ .all := by
  unfold projectionOfFields
  split <;> simp

theorem projectionOfFields_ne_invalid (fields : List ResolvedField) (written : String)
    (fault : FieldFault) (suggestion : Option String) :
    projectionOfFields fields ≠ .invalid written fault suggestion := by
  unfold projectionOfFields
  split <;> simp

theorem projectionOfFields_eq_several (h : 2 ≤ fields.length) :
    projectionOfFields fields = .several fields := by
  unfold projectionOfFields
  split
  · simp at h
  · rfl

theorem JoinScope.projection_eq_all_iff {tokens : List Token} :
    scope.projection tokens = .all ↔ tokens.map Token.kind = [.star] := by
  constructor
  · intro h
    rcases scope.projection_cases tokens with
      ⟨hstar, -⟩ | ⟨written, fault, suggestion, hinvalid⟩ | ⟨fields, hfields, -⟩
    · exact hstar
    · rw [hinvalid] at h
      cases h
    · exact absurd (hfields.symm.trans h) (projectionOfFields_ne_all fields)
  · intro hstar
    rw [JoinScope.projection, if_pos hstar]

theorem JoinScope.projection_eq_projectionOfFields_iff {tokens : List Token} :
    scope.projection tokens = projectionOfFields fields ↔
      List.Forall₂ scope.Names ((tokens.map Token.kind).splitOn .comma) fields := by
  rw [← map_kind_selectItems]
  constructor
  · intro h
    rcases scope.projection_cases tokens with
      ⟨-, hall⟩ | ⟨written, fault, suggestion, hinvalid⟩ | ⟨found, hfound, hitems⟩
    · exact absurd (h.symm.trans hall) (projectionOfFields_ne_all fields)
    · exact absurd (h.symm.trans hinvalid) (projectionOfFields_ne_invalid _ _ _ _)
    · have hsame : found = fields := by
        rw [← fields_projectionOfFields found, ← hfound, h, fields_projectionOfFields]
      rw [← hsame, List.forall₂_map_left_iff]
      exact hitems.imp fun _ _ => JoinScope.resolveItem_eq_ok_iff.mp
  · intro h
    have hstar : ¬ tokens.map Token.kind = [.star] := by
      intro hstar
      rw [map_kind_selectItems, hstar] at h
      obtain ⟨field, -, hfield, -, -⟩ := List.forall₂_cons_left_iff.mp h
      exact not_names_star field hfield
    have hitems := resolveItems_eq_ok_iff.mpr h
    rw [selectItems] at hitems
    simp only [JoinScope.projection, if_neg hstar, hitems]

theorem JoinScope.projection_eq_single_iff {tokens : List Token} :
    scope.projection tokens = .single field ↔
      ∃ item, (tokens.map Token.kind).splitOn .comma = [item] ∧ scope.Names item field := by
  have hsingle : Projection.single field = projectionOfFields [field] := rfl
  rw [hsingle, JoinScope.projection_eq_projectionOfFields_iff, List.forall₂_cons_right_iff]
  constructor
  · rintro ⟨item, rest, hitem, hrest, hitems⟩
    rw [List.forall₂_nil_right_iff.mp hrest] at hitems
    exact ⟨item, hitems, hitem⟩
  · rintro ⟨item, hitems, hitem⟩
    exact ⟨item, [], hitem, .nil, hitems⟩

theorem JoinScope.projection_eq_several_iff {tokens : List Token} :
    scope.projection tokens = .several fields ↔
      2 ≤ ((tokens.map Token.kind).splitOn .comma).length ∧
        List.Forall₂ scope.Names ((tokens.map Token.kind).splitOn .comma) fields := by
  constructor
  · intro h
    have hlength := JoinScope.two_le_length_of_several h
    rw [← projectionOfFields_eq_several hlength,
      JoinScope.projection_eq_projectionOfFields_iff] at h
    rw [h.length_eq]
    exact ⟨hlength, h⟩
  · rintro ⟨hlength, h⟩
    rw [h.length_eq] at hlength
    rw [← projectionOfFields_eq_several hlength]
    exact JoinScope.projection_eq_projectionOfFields_iff.mpr h

theorem JoinScope.exists_projection_eq_invalid_iff {tokens : List Token} :
    (∃ suggestion, scope.projection tokens = .invalid written fault suggestion) ↔
      tokens.map Token.kind ≠ [.star] ∧
        ∃ item, scope.FirstRefused ((tokens.map Token.kind).splitOn .comma) item fault ∧
          written = String.ofList (item.flatMap TokenKind.text) := by
  rw [← map_kind_selectItems, ← resolveItems_eq_error_iff, selectItems, JoinScope.projection]
  by_cases hstar : tokens.map Token.kind = [.star]
  · simp [hstar]
  · rw [if_neg hstar]
    simp only [ne_eq, hstar, not_false_eq_true, true_and]
    cases resolveItems scope (tokens.splitOnP fun token => token.kind == .comma) with
    | error projection => simp only [Except.error.injEq]
    | ok fields => simp [projectionOfFields_ne_invalid]

theorem JoinScope.exists_projection_eq_invalid {tokens : List Token}
    (hstar : tokens.map Token.kind ≠ [.star])
    (hitem : item ∈ (tokens.map Token.kind).splitOn .comma)
    (hunnamed : ∀ field, ¬ scope.Names item field) :
    ∃ written fault suggestion, scope.projection tokens = .invalid written fault suggestion := by
  rcases scope.projection_cases tokens with ⟨hall, -⟩ | hinvalid | ⟨fields, hfields, -⟩
  · exact absurd hall hstar
  · exact hinvalid
  · have hnames := JoinScope.projection_eq_projectionOfFields_iff.mp hfields
    obtain ⟨field, -, hfield⟩ := exists_mem_of_forall₂ hnames.flip hitem
    exact absurd hfield (hunnamed field)

theorem JoinScope.Names.found (h : scope.Names item field) :
    (scope.columns.onSide field.side)[field.position]? = some field.column := by
  cases h with
  | qualified _ hcolumn => exact hcolumn.found
  | bare hcolumn _ => exact hcolumn.found

theorem JoinScope.found_of_mem_fields {tokens : List Token}
    (hfield : field ∈ (scope.projection tokens).fields) :
    (scope.columns.onSide field.side)[field.position]? = some field.column := by
  rcases scope.projection_cases tokens with
    ⟨-, hall⟩ | ⟨written, fault, suggestion, hinvalid⟩ | ⟨fields, hfields, -⟩
  · rw [hall] at hfield
    cases hfield
  · rw [hinvalid] at hfield
    cases hfield
  · rw [hfields, fields_projectionOfFields] at hfield
    have hnames := JoinScope.projection_eq_projectionOfFields_iff.mp hfields
    obtain ⟨item, -, hitem⟩ := exists_mem_of_forall₂ hnames hfield
    exact hitem.found

/-- A query's projection is determined by the items that commas cut its select list into.  It is the
star, or has one field for each of them, or is refused for the first item that names none. -/
theorem recognizeJoin?_select_list (h : recognizeJoin? columns statement = some query) :
    ∃ index, let kinds := bodyKinds (kindsOf statement.toList)
      let selectList := (kinds.take index).drop 1
      let items := selectList.splitOn .comma
      let scope : JoinScope := ⟨columns, query.leftRelation, query.rightRelation⟩
      IsJoinStatement kinds index query.leftRelation.toList query.rightRelation.toList ∧
      (query.projection = .all ↔ selectList = [.star]) ∧
      items ≠ [] ∧
      (∀ field, query.projection = .single field ↔
        ∃ item, items = [item] ∧ scope.Names item field) ∧
      (∀ fields, query.projection = .several fields ↔
        2 ≤ items.length ∧ List.Forall₂ scope.Names items fields) ∧
      (∀ field ∈ query.projection.fields,
        (columns.onSide field.side)[field.position]? = some field.column) ∧
      (∀ written fault, (∃ suggestion, query.projection = .invalid written fault suggestion) ↔
        selectList ≠ [.star] ∧ ∃ item, scope.FirstRefused items item fault ∧
          written = String.ofList (item.flatMap TokenKind.text)) ∧
      (selectList ≠ [.star] → ∀ item ∈ items, (∀ field, ¬ scope.Names item field) →
        ∃ written fault suggestion, query.projection = .invalid written fault suggestion) := by
  obtain ⟨index, hcut⟩ := exists_cutFrom_of_recognizeJoin? h
  refine ⟨index, hcut.isStatement, ?_⟩
  have hkinds : (tokenize query.fieldsText.toList).map Token.kind =
      ((bodyKinds (kindsOf statement.toList)).take index).drop 1 := hcut.fields
  rw [projection_of_recognizeJoin? h, ← hkinds]
  exact ⟨JoinScope.projection_eq_all_iff, List.splitOnP_ne_nil _ _,
    fun _ => JoinScope.projection_eq_single_iff, fun _ => JoinScope.projection_eq_several_iff,
    fun _ => JoinScope.found_of_mem_fields,
    fun _ _ => JoinScope.exists_projection_eq_invalid_iff,
    fun hstar _ => JoinScope.exists_projection_eq_invalid hstar⟩

/-- Names in another case than the columns have, and a column that is there twice. -/
theorem recognizeJoin?_select_list_of_repeated_columns :
    ∃ query, recognizeJoin? ⟨["id", "Name", "NAME"], ["id", "age"]⟩
        "select A.nAME , age from a inner join B on x" = some query ∧
      ∃ first second,
        JoinScope.Names ⟨⟨["id", "Name", "NAME"], ["id", "age"]⟩, "a", "B"⟩ first
          ⟨"a", "Name", .left, 1⟩ ∧
        JoinScope.Names ⟨⟨["id", "Name", "NAME"], ["id", "age"]⟩, "a", "B"⟩ second
          ⟨"B", "age", .right, 1⟩ := by
  have hquery : recognizeJoin? ⟨["id", "Name", "NAME"], ["id", "age"]⟩
      "select A.nAME , age from a inner join B on x" = some
        { projection := .several [⟨"a", "Name", .left, 1⟩, ⟨"B", "age", .right, 1⟩]
          fieldsText := "A.nAME , age"
          leftRelation := "a"
          rightRelation := "B"
          conditionText := "x"
          keyCondition? := none } := by
    decide +kernel
  obtain ⟨index, -, -, -, -, hseveral, -⟩ := recognizeJoin?_select_list hquery
  obtain ⟨-, hnames⟩ := (hseveral _).mp rfl
  obtain ⟨first, rest, hfirst, hrest, -⟩ := List.forall₂_cons_right_iff.mp hnames
  obtain ⟨second, -, hsecond, -, -⟩ := List.forall₂_cons_right_iff.mp hrest
  exact ⟨_, hquery, first, second, hfirst, hsecond⟩

end KeyJoin
