import KeyJoin.Proofs.JoinPairs
import Mathlib.Algebra.BigOperators.Finprod
import Mathlib.Data.List.Forall2

/-!
# Joined rows in order and in number

The pairs of positions with agreeing keys come in strictly increasing
lexicographic order, so each of them gives one joined row and no other does.
The number of joined rows is then a sum over keys: each key contributes the
number of left rows with it times the number of right rows with it.  A join
goes through its left rows one after the other, so the rows of a longer left
list come behind those of its beginning, while a longer right list puts its
rows between those that were there.
-/

namespace KeyJoin

variable {left right : List Row} {pair : Nat × Nat} {row : JoinedRow}

/-! ## Order of the pairs -/

theorem mem_matchingPairs_iff : pair ∈ matchingPairs left right ↔ KeysAgree left right pair := by
  obtain ⟨i, j⟩ := pair
  constructor
  · intro hpair
    exact of_decide_eq_true (List.mem_filter.mp hpair).2
  · intro hagree
    obtain ⟨key, hleft, hright⟩ := hagree
    obtain ⟨leftRow, hi, -⟩ := Option.bind_eq_some_iff.mp hleft
    obtain ⟨rightRow, hj, -⟩ := Option.bind_eq_some_iff.mp hright
    obtain ⟨hi, -⟩ := List.getElem?_eq_some_iff.mp hi
    obtain ⟨hj, -⟩ := List.getElem?_eq_some_iff.mp hj
    refine List.mem_filter.mpr ⟨?_, decide_eq_true ⟨key, hleft, hright⟩⟩
    simpa using And.intro hi hj

theorem pairwise_lex_product {as bs : List Nat} (has : as.Pairwise (· < ·))
    (hbs : bs.Pairwise (· < ·)) :
    (as ×ˢ bs).Pairwise (Prod.Lex (· < ·) (· < ·)) := by
  simp only [SProd.sprod, List.product]
  rw [List.pairwise_flatMap]
  constructor
  · intro a _
    rw [List.pairwise_map]
    exact hbs.imp fun hlt => Prod.Lex.right a hlt
  · refine has.imp fun {a a'} hlt x hx y hy => ?_
    obtain ⟨b, -, rfl⟩ := List.mem_map.mp hx
    obtain ⟨b', -, rfl⟩ := List.mem_map.mp hy
    exact Prod.Lex.left b b' hlt

theorem pairwise_lex_matchingPairs (left right : List Row) :
    (matchingPairs left right).Pairwise (Prod.Lex (· < ·) (· < ·)) :=
  (pairwise_lex_product List.pairwise_lt_range List.pairwise_lt_range).filter _

theorem forall₂_matchingPairs_joinRows (left right : List Row) :
    List.Forall₂
      (fun pair row => left[pair.1]? = some row.left ∧ right[pair.2]? = some row.right)
      (matchingPairs left right) (joinRows left right) := by
  rw [joinRows_eq_map_matchingPairs, List.forall₂_map_right_iff, List.forall₂_same]
  rintro ⟨i, j⟩ hpair
  have hrange := (List.mem_filter.mp hpair).1
  obtain ⟨hi, hj⟩ : i < left.length ∧ j < right.length := by simpa using hrange
  simp [hi, hj]

/-! ## Keys of the joined rows -/

theorem mem_joinRows_iff :
    row ∈ joinRows left right ↔ row.left ∈ left ∧ row.right ∈ partnersOf row.left right := by
  obtain ⟨a, b⟩ := row
  simp [joinRows, and_comm]

theorem mem_partnersOf_iff {a b : Row} :
    b ∈ partnersOf a right ↔ b ∈ right ∧ ∃ key, a.key? = some key ∧ b.key? = some key := by
  unfold partnersOf
  cases a.key? with
  | none => simp
  | some key => simp

theorem key?_of_mem_joinRows (h : row ∈ joinRows left right) :
    row.left.key? = some row.key ∧ row.right.key? = some row.key := by
  obtain ⟨-, hpartner⟩ := mem_joinRows_iff.mp h
  obtain ⟨-, key, hleft, hright⟩ := mem_partnersOf_iff.mp hpartner
  have hkey : row.key = key := by
    rw [JoinedRow.key, hleft]
    rfl
  rw [hkey]
  exact ⟨hleft, hright⟩

/-! ## Lists put together -/

theorem joinRows_append_left (before after right : List Row) :
    joinRows (before ++ after) right = joinRows before right ++ joinRows after right :=
  List.flatMap_append

theorem partnersOf_append (first : Row) (before after : List Row) :
    partnersOf first (before ++ after) = partnersOf first before ++ partnersOf first after := by
  unfold partnersOf
  cases first.key? with
  | none => rfl
  | some key => exact List.filter_append before after

theorem joinRows_append_right_perm (left before after : List Row) :
    (joinRows left (before ++ after)).Perm (joinRows left before ++ joinRows left after) := by
  have hrows : joinRows left (before ++ after) =
      left.flatMap fun first =>
        (partnersOf first before).map (JoinedRow.mk first) ++
          (partnersOf first after).map (JoinedRow.mk first) := by
    simp only [joinRows, partnersOf_append, List.map_append]
  rw [hrows]
  exact (List.flatMap_append_perm left _ _).symm

/-! ## Number of the joined rows -/

def rowsWithKey (key : String) (rows : List Row) : Nat :=
  rows.countP fun row => row.key? == some key

theorem joinRows_cons (first : Row) (left right : List Row) :
    joinRows (first :: left) right =
      (partnersOf first right).map (⟨first, ·⟩) ++ joinRows left right :=
  List.flatMap_cons

theorem length_partnersOf {first : Row} {key : String} (h : first.key? = some key)
    (right : List Row) : (partnersOf first right).length = rowsWithKey key right := by
  rw [partnersOf, h, rowsWithKey, List.countP_eq_length_filter]

theorem rowsWithKey_cons (key : String) (first : Row) (rows : List Row) :
    rowsWithKey key (first :: rows) =
      rowsWithKey key rows + if first.key? = some key then 1 else 0 := by
  simp [rowsWithKey, List.countP_cons]

/-- Any keys will do among which are those of the left rows. -/
theorem length_joinRows_eq_sum {keys : Finset String} (right : List Row)
    (hkeys : ∀ row ∈ left, ∀ key, row.key? = some key → key ∈ keys) :
    (joinRows left right).length =
      ∑ key ∈ keys, rowsWithKey key left * rowsWithKey key right := by
  induction left with
  | nil => simp [joinRows, rowsWithKey]
  | cons first left ih =>
      rw [List.forall_mem_cons] at hkeys
      have hrest := ih hkeys.2
      rw [joinRows_cons, List.length_append, List.length_map, hrest]
      cases hfirst : first.key? with
      | none => simp [partnersOf, hfirst, rowsWithKey_cons]
      | some own =>
          have hown : own ∈ keys := hkeys.1 own hfirst
          rw [length_partnersOf hfirst]
          calc
            rowsWithKey own right +
                ∑ key ∈ keys, rowsWithKey key left * rowsWithKey key right =
              (∑ key ∈ keys, if own = key then rowsWithKey key right else 0) +
                ∑ key ∈ keys, rowsWithKey key left * rowsWithKey key right := by
              rw [Finset.sum_ite_eq, if_pos hown]
            _ = ∑ key ∈ keys, rowsWithKey key (first :: left) * rowsWithKey key right := by
              rw [← Finset.sum_add_distrib]
              refine Finset.sum_congr rfl fun key _ => ?_
              rw [rowsWithKey_cons, hfirst, Nat.add_mul, Nat.add_comm]
              simp

theorem rowsWithKey_eq_zero {key : String} {rows : List Row}
    (h : key ∉ rows.filterMap Row.key?) : rowsWithKey key rows = 0 := by
  rw [rowsWithKey, List.countP_eq_zero]
  intro row hrow hkey
  exact h (List.mem_filterMap.mpr ⟨row, hrow, by simpa using hkey⟩)

theorem length_joinRows_eq_finsum (left right : List Row) :
    (joinRows left right).length = ∑ᶠ key, rowsWithKey key left * rowsWithKey key right := by
  let keys : Finset String := (left.filterMap Row.key?).toFinset
  have hkeys : ∀ row ∈ left, ∀ key, row.key? = some key → key ∈ keys := by
    intro row hrow key hkey
    exact List.mem_toFinset.mpr (List.mem_filterMap.mpr ⟨row, hrow, hkey⟩)
  have hsupport : Function.support (fun key => rowsWithKey key left * rowsWithKey key right) ⊆
      (keys : Set String) := by
    intro key hkey
    by_contra hnone
    have hzero : rowsWithKey key left = 0 :=
      rowsWithKey_eq_zero fun hmem => hnone (List.mem_toFinset.mpr hmem)
    exact hkey (by simp [hzero])
  rw [finsum_eq_sum_of_support_subset _ hsupport, length_joinRows_eq_sum right hkeys]

/-- A keyed join is the list of the rows at the pairs of positions with agreeing keys, each pair
once and in lexicographic order, and there are as many as the keys allow. -/
theorem joinRows_exact (left right : List Row) :
    (∃ pairs : List (Nat × Nat),
      (∀ pair, pair ∈ pairs ↔ KeysAgree left right pair) ∧
      pairs.Pairwise (Prod.Lex (· < ·) (· < ·)) ∧
      List.Forall₂
        (fun pair row => left[pair.1]? = some row.left ∧ right[pair.2]? = some row.right)
        pairs (joinRows left right)) ∧
    (joinRows left right).length = ∑ᶠ key, rowsWithKey key left * rowsWithKey key right ∧
    ∀ row ∈ joinRows left right,
      row.left.key? = some row.key ∧ row.right.key? = some row.key := by
  refine ⟨⟨matchingPairs left right, fun pair => mem_matchingPairs_iff,
    pairwise_lex_matchingPairs left right, forall₂_matchingPairs_joinRows left right⟩,
    length_joinRows_eq_finsum left right, fun row hrow => key?_of_mem_joinRows hrow⟩

/-- Equal rows at different positions, rows without cells on both sides, and keys that differ only
as texts. -/
theorem joinRows_exact_of_repeated_rows :
    let left : List Row := [⟨["1", "a"]⟩, ⟨[]⟩, ⟨["1", "a"]⟩, ⟨["07"]⟩]
    let right : List Row := [⟨["7"]⟩, ⟨["1"]⟩, ⟨[]⟩, ⟨["1"]⟩]
    (joinRows left right).length = 4 ∧
      ∑ᶠ key, rowsWithKey key left * rowsWithKey key right = 4 ∧
      ∀ row ∈ joinRows left right, row.left.key? = some "1" ∧ row.right.key? = some "1" := by
  intro left right
  obtain ⟨-, hlength, hkeys⟩ := joinRows_exact left right
  have hcount : (joinRows left right).length = 4 := by decide
  have hown : ∀ row ∈ joinRows left right, row.key = "1" := by decide
  refine ⟨hcount, hlength.symm.trans hcount, fun row hrow => ?_⟩
  rw [← hown row hrow]
  exact hkeys row hrow

end KeyJoin
