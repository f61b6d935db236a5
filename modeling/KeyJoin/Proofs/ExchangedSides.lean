import KeyJoin.Proofs.JoinedRows

/-!
# Joins with their sides exchanged

A join goes through its left rows and, for each of them, through its right
rows, so the joined rows of the two directions come in different orders.  They
are the same rows with their sides exchanged, each as often in one direction as
in the other: one row against a list gives the same pairs whichever side it is
on, and a longer list adds the pairs of its further rows.  The pairs with one
key are the product of the rows that have this key.
-/

namespace KeyJoin

def JoinedRow.swap (row : JoinedRow) : JoinedRow :=
  ⟨row.right, row.left⟩

/-- The rows that have this key, in their order. -/
def keyedRows (key : String) (rows : List Row) : List Row :=
  rows.filter fun row => row.key? == some key

/-! ## One row on either side -/

theorem partnersOf_nil (row : Row) : partnersOf row [] = [] := by
  unfold partnersOf
  split <;> rfl

theorem map_swap_partnersOf_singleton (a b : Row) :
    ((partnersOf b [a]).map (JoinedRow.mk b)).map JoinedRow.swap =
      (partnersOf a [b]).map (JoinedRow.mk a) := by
  by_cases hagree : a.key?.isSome = true ∧ b.key? = a.key?
  · obtain ⟨key, ha⟩ := Option.isSome_iff_exists.mp hagree.1
    have hb : b.key? = some key := hagree.2.trans ha
    simp [partnersOf, ha, hb, JoinedRow.swap]
  · have hnone : partnersOf a [b] = [] := by
      rw [partnersOf_eq_filter, List.filter_eq_nil_iff]
      simpa using hagree
    have hnone' : partnersOf b [a] = [] := by
      rw [partnersOf_eq_filter, List.filter_eq_nil_iff]
      intro row hrow hsome
      obtain rfl := List.mem_singleton.mp hrow
      simp only [Bool.and_eq_true, beq_iff_eq] at hsome
      exact hagree ⟨by rw [hsome.2]; exact hsome.1, hsome.2.symm⟩
    rw [hnone, hnone']
    rfl

theorem map_swap_joinRows_singleton (first : Row) (right : List Row) :
    (joinRows right [first]).map JoinedRow.swap =
      (partnersOf first right).map (JoinedRow.mk first) := by
  induction right with
  | nil =>
      rw [partnersOf_nil]
      rfl
  | cons row right ih =>
      have hpartners : partnersOf first (row :: right) =
          partnersOf first [row] ++ partnersOf first right :=
        partnersOf_append first [row] right
      rw [joinRows_cons, List.map_append, map_swap_partnersOf_singleton, ih, hpartners,
        List.map_append]

/-! ## Whole lists -/

theorem joinRows_swap_perm (left right : List Row) :
    ((joinRows right left).map JoinedRow.swap).Perm (joinRows left right) := by
  induction left with
  | nil =>
      have hnone : joinRows right [] = [] := by simp [joinRows, partnersOf_nil]
      rw [hnone]
      exact .nil
  | cons first left ih =>
      calc
        ((joinRows right (first :: left)).map JoinedRow.swap).Perm
            ((joinRows right [first] ++ joinRows right left).map JoinedRow.swap) :=
          (joinRows_append_right_perm right [first] left).map _
        _ = (partnersOf first right).map (JoinedRow.mk first) ++
              (joinRows right left).map JoinedRow.swap := by
          rw [List.map_append, map_swap_joinRows_singleton]
        List.Perm _ ((partnersOf first right).map (JoinedRow.mk first) ++ joinRows left right) :=
          ih.append_left _
        _ = joinRows (first :: left) right := (joinRows_cons first left right).symm

/-- Left rows with another key, or without one, contribute nothing. -/
theorem filter_key_joinRows (key : String) (left right : List Row) :
    (joinRows left right).filter (fun row => row.key == key) =
      (keyedRows key left ×ˢ keyedRows key right).map fun pair => ⟨pair.1, pair.2⟩ := by
  induction left with
  | nil => rfl
  | cons first left ih =>
      rw [joinRows_cons, List.filter_append, ih]
      by_cases hfirst : first.key? = some key
      · have hpartners : partnersOf first right = keyedRows key right := by
          simp only [partnersOf, hfirst, keyedRows]
        have hkeyed : keyedRows key (first :: left) = first :: keyedRows key left := by
          simp [keyedRows, hfirst]
        have hall : ∀ row ∈ (partnersOf first right).map (JoinedRow.mk first),
            (row.key == key) = true := by
          simp [JoinedRow.key, hfirst]
        rw [List.filter_eq_self.mpr hall, hpartners, hkeyed, List.product_cons, List.map_append,
          List.map_map]
        rfl
      · have hkeyed : keyedRows key (first :: left) = keyedRows key left := by
          simp [keyedRows, hfirst]
        have hnone : ((partnersOf first right).map (JoinedRow.mk first)).filter
            (fun row => row.key == key) = [] := by
          rw [List.filter_eq_nil_iff]
          rintro row hrow hkey
          obtain ⟨partner, hpartner, rfl⟩ := List.mem_map.mp hrow
          obtain ⟨-, own, hown, -⟩ := mem_partnersOf_iff.mp hpartner
          simp only [JoinedRow.key, hown, Option.getD_some, beq_iff_eq] at hkey
          exact hfirst (hkey ▸ hown)
        rw [hnone, hkeyed, List.nil_append]

/-- Exchanging the two lists of a join exchanges the sides of the joined rows and nothing else, and
in either direction every row with a key meets every row of the other list with this key. -/
theorem joinRows_exchanged (left right : List Row) :
    ((joinRows right left).map JoinedRow.swap).Perm (joinRows left right) ∧
    Multiset.map JoinedRow.swap (joinRows right left : List JoinedRow) =
      (joinRows left right : List JoinedRow) ∧
    ∀ key,
      (joinRows left right).filter (fun row => row.key == key) =
        (keyedRows key left ×ˢ keyedRows key right).map (fun pair => ⟨pair.1, pair.2⟩) ∧
      (joinRows right left).filter (fun row => row.key == key) =
        (keyedRows key right ×ˢ keyedRows key left).map (fun pair => ⟨pair.1, pair.2⟩) := by
  have hperm := joinRows_swap_perm left right
  refine ⟨hperm, ?_, fun key => ⟨filter_key_joinRows key left right,
    filter_key_joinRows key right left⟩⟩
  rw [Multiset.map_coe, Multiset.coe_eq_coe]
  exact hperm

/-- The order is another one, and equal rows count apart. -/
example :
    let left : List Row := [⟨["1", "a"]⟩, ⟨[]⟩, ⟨["1", "b"]⟩]
    let right : List Row := [⟨["1", "x"]⟩, ⟨["1", "x"]⟩, ⟨[]⟩]
    (joinRows right left).map JoinedRow.swap ≠ joinRows left right ∧
      (joinRows left right).count ⟨⟨["1", "a"]⟩, ⟨["1", "x"]⟩⟩ = 2 := by
  decide

end KeyJoin
