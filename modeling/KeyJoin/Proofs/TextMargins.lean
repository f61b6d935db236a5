import KeyJoin.BlankText
import Mathlib.Data.List.DropRight

/-!
# Margins of a text

A text is unpadded when it neither begins nor ends with white space.  Trimming
yields such a text, takes nothing from a text that is one already, and puts no
character in that was not there.
-/

namespace KeyJoin

/-- Nothing but white space, or nothing at all. -/
def IsBlankText (text : List Char) : Prop :=
  ∀ c ∈ text, isBlank c = true

-- by a search in the text: characters are finitely many, but too many to be tried one by one
instance : DecidablePred IsBlankText :=
  fun _ => decidable_of_iff _ List.all_eq_true

structure Unpadded (text : List Char) : Prop where
  first : ∀ c ∈ text.head?, isBlank c = false
  last : ∀ c ∈ text.getLast?, isBlank c = false

theorem isBlankText_nil : IsBlankText [] := by
  simp [IsBlankText]

theorem isBlankText_append {a b : List Char}
    (ha : IsBlankText a) (hb : IsBlankText b) : IsBlankText (a ++ b) := by
  intro c hc
  rcases List.mem_append.mp hc with h | h
  · exact ha c h
  · exact hb c h

theorem trimEnd_isPrefix (text : List Char) : trimEnd text <+: text :=
  List.rdropWhile_prefix isBlank text

theorem trimStart_suffix (text : List Char) : trimStart text <:+ text :=
  List.dropWhile_suffix isBlank

theorem mem_of_mem_trim {text : List Char} {c : Char} (hc : c ∈ trim text) : c ∈ text :=
  (trimStart_suffix text).subset ((trimEnd_isPrefix (trimStart text)).subset hc)

theorem exists_margins (text : List Char) :
    ∃ before after, text = before ++ (trim text ++ after) ∧ IsBlankText before ∧
      IsBlankText after := by
  refine ⟨text.takeWhile isBlank, (trimStart text).rtakeWhile isBlank, ?_, fun c hc => ?_,
    fun c hc => ?_⟩
  · have hend : trim text ++ (trimStart text).rtakeWhile isBlank = trimStart text :=
      List.rdropWhile_append_rtakeWhile
    rw [hend]
    exact List.takeWhile_append_dropWhile.symm
  · exact List.mem_takeWhile_imp hc
  · exact List.mem_rtakeWhile_imp hc

theorem trim_of_unpadded {text : List Char} (h : Unpadded text) : trim text = text := by
  have hstart : trimStart text = text := by
    cases text with
    | nil => rfl
    | cons c rest =>
        have hc : isBlank c = false := h.first c rfl
        simp [trimStart, hc]
  have hend : trimEnd text = text := by
    refine List.rdropWhile_eq_self_iff.mpr fun hne => ?_
    have hlast := h.last _ (List.getLast?_eq_some_getLast hne)
    simp [hlast]
  rw [trim, hstart, hend]

theorem trim_blank_append {gap : List Char} (hgap : IsBlankText gap) (text : List Char) :
    trim (gap ++ text) = trim text := by
  rw [trim, trim, trimStart, List.dropWhile_append_of_pos hgap, trimStart]

theorem trimEnd_append_blank {gap : List Char} (hgap : IsBlankText gap) (text : List Char) :
    trimEnd (text ++ gap) = trimEnd text := by
  have hreverse : ∀ c ∈ gap.reverse, isBlank c = true := fun c hc => hgap c (by simpa using hc)
  rw [trimEnd, trimEnd, List.reverse_append, List.dropWhile_append_of_pos hreverse]

theorem trim_append_blank {gap : List Char} (hgap : IsBlankText gap) (text : List Char) :
    trim (text ++ gap) = trim text := by
  by_cases hblank : IsBlankText text
  · rw [trim_blank_append hblank, ← List.append_nil text, trim_blank_append hblank,
      ← List.append_nil gap, trim_blank_append hgap]
  · have hrest : trimStart (text ++ gap) = trimStart text ++ gap := by
      rw [trimStart, List.dropWhile_append, if_neg, trimStart]
      simpa [IsBlankText] using hblank
    rw [trim, hrest, trimEnd_append_blank hgap, trim]

theorem trim_ne_nil_of_mem {text : List Char} {c : Char} (hmem : c ∈ text)
    (hc : isBlank c = false) : trim text ≠ [] := by
  intro hnil
  obtain ⟨before, after, htext, hbefore, hafter⟩ := exists_margins text
  rw [hnil, List.nil_append] at htext
  have hblank : isBlank c = true := by
    rw [htext] at hmem
    exact isBlankText_append hbefore hafter c hmem
  rw [hc] at hblank
  cases hblank

theorem trim_eq_nil_iff {text : List Char} : trim text = [] ↔ IsBlankText text := by
  constructor
  · intro hnil c hc
    by_contra hshown
    exact trim_ne_nil_of_mem hc (by simpa using hshown) hnil
  · intro hblank
    rw [← List.append_nil text, trim_blank_append hblank]
    rfl

theorem unpadded_trim (text : List Char) : Unpadded (trim text) := by
  constructor
  · intro c hc
    have hhead : (trimStart text).head? = some c := by
      obtain ⟨rest, hrest⟩ := trimEnd_isPrefix (trimStart text)
      rw [← hrest, List.head?_append]
      simp [show (trimEnd (trimStart text)).head? = some c from hc]
    have hnot := List.head?_dropWhile_not isBlank text
    rw [trimStart] at hhead
    rw [hhead] at hnot
    exact hnot
  · intro c hc
    have hne : trim text ≠ [] := by
      intro hnil
      simp [hnil] at hc
    have hlast : (trim text).getLast hne = c := by
      simpa [List.getLast?_eq_some_getLast hne] using hc
    have hnot : ¬ isBlank ((trim text).getLast hne) = true :=
      List.rdropWhile_last_not isBlank (trimStart text) hne
    simpa [hlast] using hnot

theorem toList_trimText (text : String) : (trimText text).toList = trim text.toList := by
  rw [trimText, String.toList_ofList]

theorem trimText_trimText (text : String) : trimText (trimText text) = trimText text := by
  simp only [trimText, String.toList_ofList, trim_of_unpadded (unpadded_trim text.toList)]

end KeyJoin
