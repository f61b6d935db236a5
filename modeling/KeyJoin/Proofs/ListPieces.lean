import Mathlib.Data.List.Basic
import Mathlib.Data.List.Forall2

/-!
# Pieces of a list

Separators cut a list into pieces.  A list holds no separator or falls apart at
its first one, and what holds of the pieces follows by induction along these
cuts: no piece holds a separator, nothing comes in that the list did not hold,
and a function that respects the separators can be applied before or after.
-/

namespace KeyJoin

variable {α β : Type}

@[elab_as_elim]
theorem cut_induction {p : α → Bool} {motive : List α → Prop} (list : List α)
    (plain : ∀ list, (∀ a ∈ list, p a = false) → motive list)
    (cut : ∀ before a after, (∀ b ∈ before, p b = false) → p a = true → motive after →
      motive (before ++ a :: after)) : motive list := by
  induction hlength : list.length using Nat.strongRecOn generalizing list with
  | ind length ih =>
      cases hfound : list.find? p with
      | none => exact plain list (by simpa using hfound)
      | some a =>
          obtain ⟨ha, before, after, rfl, hbefore⟩ := List.find?_eq_some_iff_append.mp hfound
          have hshorter : after.length < length := by
            rw [← hlength, List.length_append, List.length_cons]
            omega
          exact cut before a after (by simpa using hbefore) ha (ih after.length hshorter after rfl)

theorem mem_of_mem_splitOnP {p : α → Bool} {list piece : List α} {a : α}
    (hpiece : piece ∈ list.splitOnP p) (ha : a ∈ piece) : a ∈ list ∧ p a = false := by
  induction list using cut_induction (p := p) with
  | plain list hplain =>
      rw [List.splitOnP_eq_singleton hplain, List.mem_singleton] at hpiece
      rw [hpiece] at ha
      exact ⟨ha, hplain a ha⟩
  | cut before b after hbefore hb ih =>
      rw [List.splitOnP_append_cons before after hb, List.splitOnP_eq_singleton hbefore] at hpiece
      rcases List.mem_cons.mp hpiece with rfl | hpiece
      · exact ⟨List.mem_append_left _ ha, hbefore a ha⟩
      · obtain ⟨hmem, hnot⟩ := ih hpiece
        exact ⟨List.mem_append_right _ (List.mem_cons_of_mem _ hmem), hnot⟩

theorem splitOnP_map (p : β → Bool) (f : α → β) (list : List α) :
    (list.map f).splitOnP p = (list.splitOnP (p ∘ f)).map (List.map f) := by
  induction list using cut_induction (p := p ∘ f) with
  | plain list hplain =>
      have himage : ∀ b ∈ list.map f, p b = false := by
        intro b hb
        obtain ⟨a, ha, rfl⟩ := List.mem_map.mp hb
        exact hplain a ha
      rw [List.splitOnP_eq_singleton himage, List.splitOnP_eq_singleton hplain]
      rfl
  | cut before a after hbefore ha ih =>
      have himage : ∀ b ∈ before.map f, p b = false := by
        intro b hb
        obtain ⟨c, hc, rfl⟩ := List.mem_map.mp hb
        exact hbefore c hc
      have hseparates : p (f a) = true := ha
      rw [List.map_append, List.map_cons, List.splitOnP_append_cons _ _ hseparates,
        List.splitOnP_append_cons _ _ ha, List.map_append, ih,
        List.splitOnP_eq_singleton himage, List.splitOnP_eq_singleton hbefore]
      rfl

theorem mem_intercalate {separator : List α} {pieces : List (List α)} {a : α}
    (ha : a ∈ separator.intercalate pieces) : a ∈ separator ∨ ∃ piece ∈ pieces, a ∈ piece := by
  induction pieces with
  | nil => simp at ha
  | cons first rest ih =>
      cases rest with
      | nil => exact .inr ⟨first, List.mem_cons_self, by simpa using ha⟩
      | cons second rest =>
          rw [List.intercalate_cons_cons, List.append_assoc] at ha
          rcases List.mem_append.mp ha with ha | ha
          · exact .inr ⟨first, List.mem_cons_self, ha⟩
          · rcases List.mem_append.mp ha with ha | ha
            · exact .inl ha
            · exact (ih ha).imp_right fun ⟨piece, hpiece, hmem⟩ =>
                ⟨piece, List.mem_cons_of_mem first hpiece, hmem⟩

/-- A list is cut at its first separator in one way only. -/
theorem append_cons_inj_of_not_mem {a : α} {before after before' after' : List α}
    (hbefore : a ∉ before) (hbefore' : a ∉ before')
    (h : before ++ a :: after = before' ++ a :: after') : before = before' ∧ after = after' := by
  induction before generalizing before' with
  | nil =>
      cases before' with
      | nil => exact ⟨rfl, List.tail_eq_of_cons_eq h⟩
      | cons b before' =>
          cases h
          exact absurd List.mem_cons_self hbefore'
  | cons b before ih =>
      cases before' with
      | nil =>
          cases h
          exact absurd List.mem_cons_self hbefore
      | cons c before' =>
          rw [List.mem_cons, not_or] at hbefore hbefore'
          obtain ⟨rfl, hrest⟩ := List.cons.inj h
          obtain ⟨rfl, hafter⟩ := ih hbefore.2 hbefore'.2 hrest
          exact ⟨rfl, hafter⟩

theorem exists_mem_of_forall₂ {R : α → β → Prop} {as : List α} {bs : List β}
    (h : List.Forall₂ R as bs) {b : β} (hb : b ∈ bs) : ∃ a ∈ as, R a b := by
  induction h with
  | nil => cases hb
  | @cons a b' as bs hab _ ih =>
      rcases List.mem_cons.mp hb with rfl | hb
      · exact ⟨a, List.mem_cons_self, hab⟩
      · obtain ⟨c, hc, hcb⟩ := ih hb
        exact ⟨c, List.mem_cons_of_mem a hc, hcb⟩

end KeyJoin
