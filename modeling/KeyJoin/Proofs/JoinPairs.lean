import KeyJoin.KeyedJoin
import Mathlib.Data.Finset.Prod
import Mathlib.Data.List.ProdSigma

/-!
# Joined rows by position

A join of two lists of rows is described by pairs of positions: those at which
both rows have a key and the keys are the same text.  Equal rows at different
positions count apart.  The joined rows are the rows at these pairs, in the
lexicographic order of the pairs.
-/

namespace KeyJoin

/-- The rows at the two positions both have a key, and the same one. -/
def KeysAgree (left right : List Row) (pair : Nat × Nat) : Prop :=
  ∃ key, left[pair.1]?.bind Row.key? = some key ∧ right[pair.2]?.bind Row.key? = some key

theorem keysAgree_iff (left right : List Row) (pair : Nat × Nat) :
    KeysAgree left right pair ↔
      (left[pair.1]?.bind Row.key?).isSome = true ∧
        right[pair.2]?.bind Row.key? = left[pair.1]?.bind Row.key? := by
  unfold KeysAgree
  cases left[pair.1]?.bind Row.key? with
  | none => simp
  | some key => simp

instance (left right : List Row) : DecidablePred (KeysAgree left right) :=
  fun pair => decidable_of_iff _ (keysAgree_iff left right pair).symm

/-- The pairs of positions with agreeing keys, in lexicographic order. -/
def matchingPairs (left right : List Row) : List (Nat × Nat) :=
  (List.range left.length ×ˢ List.range right.length).filter fun pair =>
    KeysAgree left right pair

/-- How many pairs of positions have agreeing keys. -/
def matchCount (left right : List Row) : Nat :=
  ((Finset.range left.length ×ˢ Finset.range right.length).filter (KeysAgree left right)).card

theorem nodup_matchingPairs (left right : List Row) : (matchingPairs left right).Nodup :=
  (List.nodup_range.product List.nodup_range).filter _

theorem length_matchingPairs (left right : List Row) :
    (matchingPairs left right).length = matchCount left right := by
  rw [← List.toFinset_card_of_nodup (nodup_matchingPairs left right), matchCount]
  congr 1
  ext ⟨i, j⟩
  simp [matchingPairs]

theorem map_getElem!_range {α : Type} [Inhabited α] (list : List α) :
    (List.range list.length).map (fun position => list[position]!) = list := by
  apply List.ext_getElem
  · simp
  · intro position hleft hright
    simp [hright]

theorem keysAgree_iff_of_lt {left right : List Row} {i j : Nat}
    (hi : i < left.length) (hj : j < right.length) :
    KeysAgree left right (i, j) ↔
      left[i]!.key?.isSome = true ∧ right[j]!.key? = left[i]!.key? := by
  simp [keysAgree_iff, hi, hj]

theorem partnersOf_eq_filter (row : Row) (right : List Row) :
    partnersOf row right =
      right.filter fun other => row.key?.isSome && other.key? == row.key? := by
  unfold partnersOf
  cases row.key? with
  | none => simp
  | some key => simp

theorem partnersOf_getElem! {left right : List Row} {i : Nat} (hi : i < left.length) :
    partnersOf left[i]! right =
      ((List.range right.length).filter fun j => KeysAgree left right (i, j)).map
        fun j => right[j]! := by
  have hfilter : ((List.range right.length).filter fun j => KeysAgree left right (i, j)) =
      (List.range right.length).filter fun j =>
        left[i]!.key?.isSome && right[j]!.key? == left[i]!.key? := by
    refine List.filter_congr fun j hj => ?_
    have hagree := keysAgree_iff_of_lt hi (List.mem_range.mp hj)
    rw [Bool.eq_iff_iff]
    simp [hagree]
  rw [partnersOf_eq_filter, hfilter]
  conv_lhs => rw [← map_getElem!_range right, List.filter_map]
  rfl

theorem joinRows_eq_map_matchingPairs (left right : List Row) :
    joinRows left right =
      (matchingPairs left right).map fun pair => ⟨left[pair.1]!, right[pair.2]!⟩ := by
  have hpairs : matchingPairs left right =
      (List.range left.length).flatMap fun i =>
        ((List.range right.length).filter fun j => KeysAgree left right (i, j)).map
          fun j => (i, j) := by
    simp only [matchingPairs, SProd.sprod, List.product, List.filter_flatMap, List.filter_map]
    rfl
  calc
    joinRows left right =
        ((List.range left.length).map fun i => left[i]!).flatMap fun row =>
          (partnersOf row right).map (⟨row, ·⟩) := by
      rw [map_getElem!_range, joinRows]
    _ = (List.range left.length).flatMap fun i =>
          (partnersOf left[i]! right).map (⟨left[i]!, ·⟩) := by
      rw [List.flatMap_map]
    _ = (List.range left.length).flatMap fun i =>
          ((List.range right.length).filter fun j => KeysAgree left right (i, j)).map
            fun j => ⟨left[i]!, right[j]!⟩ := by
      refine List.flatMap_congr fun i hi => ?_
      rw [partnersOf_getElem! (List.mem_range.mp hi), List.map_map]
      rfl
    _ = (matchingPairs left right).map fun pair => ⟨left[pair.1]!, right[pair.2]!⟩ := by
      rw [hpairs, List.map_flatMap]
      simp only [List.map_map]
      rfl

end KeyJoin
