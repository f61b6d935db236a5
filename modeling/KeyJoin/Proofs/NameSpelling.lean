import KeyJoin.Proofs.TokenLayout
import KeyJoin.SelectListResolution

/-!
# Spelling of names

Names that agree up to the case of the letters A to Z are interchangeable where
a column is looked up: the first column that one of them finds is the one the
other finds.  The case of these letters does not tell either whether a text is
one word, so a column found under a word can be written as a word itself.
-/

namespace KeyJoin

variable {a b column name : String} {names : List String} {position : Nat}

/-! ## Equality up to case -/

theorem sameIgnoringCase_iff :
    sameIgnoringCase a b = true ↔ a.toList.map Char.toLower = b.toList.map Char.toLower := by
  simp [sameIgnoringCase]

theorem sameIgnoringCase_refl (a : String) : sameIgnoringCase a a = true :=
  sameIgnoringCase_iff.mpr rfl

theorem sameIgnoringCase_comm (a b : String) : sameIgnoringCase a b = sameIgnoringCase b a := by
  rw [Bool.eq_iff_iff, sameIgnoringCase_iff, sameIgnoringCase_iff]
  exact eq_comm

theorem sameIgnoringCase_congr (h : sameIgnoringCase a b = true) (name : String) :
    sameIgnoringCase name a = sameIgnoringCase name b := by
  rw [Bool.eq_iff_iff, sameIgnoringCase_iff, sameIgnoringCase_iff, sameIgnoringCase_iff.mp h]

/-! ## Columns -/

theorem findColumn?_congr (h : sameIgnoringCase a b = true) (names : List String) :
    findColumn? a names = findColumn? b names := by
  induction names with
  | nil => rfl
  | cons name names ih => simp only [findColumn?, sameIgnoringCase_congr h, ih]

theorem sameIgnoringCase_of_findColumn? (h : findColumn? column names = some (position, name)) :
    sameIgnoringCase name column = true := by
  induction names generalizing position with
  | nil => cases h
  | cons first names ih =>
      rw [findColumn?] at h
      split at h
      · rename_i hsame
        cases h
        exact hsame
      · obtain ⟨⟨before, found⟩, hfound, hname⟩ := Option.map_eq_some_iff.mp h
        cases hname
        exact ih hfound

/-- A column that is found is found again under its own spelling. -/
theorem findColumn?_own (h : findColumn? column names = some (position, name)) :
    findColumn? name names = some (position, name) := by
  rw [findColumn?_congr (sameIgnoringCase_of_findColumn? h), h]

/-! ## Words -/

theorem toLower_cases (c : Char) :
    c.toLower = c ∨ ∃ n < 26, c = Char.ofNat (65 + n) ∧ c.toLower = Char.ofNat (97 + n) := by
  have hletters : ∀ n < 26, (Char.ofNat (65 + n)).toLower = Char.ofNat (97 + n) := by
    decide
  by_cases hcapital : 65 ≤ c.toNat ∧ c.toNat ≤ 90
  · obtain ⟨n, hn⟩ := Nat.exists_eq_add_of_le hcapital.1
    have hc : c = Char.ofNat (65 + n) := by rw [← hn, Char.ofNat_toNat]
    have hbound : n < 26 := by omega
    refine .inr ⟨n, hbound, hc, ?_⟩
    rw [hc]
    exact hletters n hbound
  · left
    unfold Char.toLower
    rw [dif_neg]
    rintro ⟨hlow, hhigh⟩
    exact hcapital ⟨hlow, hhigh⟩

/-- What agrees on the letters of both cases does not change when letters are put in lower case. -/
theorem toLower_invariant {β : Type} (f : Char → β)
    (hletters : ∀ n < 26, f (Char.ofNat (97 + n)) = f (Char.ofNat (65 + n))) (c : Char) :
    f c.toLower = f c := by
  rcases toLower_cases c with hsame | ⟨n, hn, hupper, hlower⟩
  · rw [hsame]
  · rw [hlower, hupper]
    exact hletters n hn

theorem isBlank_toLower (c : Char) : isBlank c.toLower = isBlank c :=
  toLower_invariant isBlank (by decide) c

theorem isWordCharacter_toLower (c : Char) : isWordCharacter c.toLower = isWordCharacter c :=
  toLower_invariant isWordCharacter (by decide) c

theorem TokenKind.IsLexeme.of_sameIgnoringCase (h : (TokenKind.word a.toList).IsLexeme)
    (hsame : sameIgnoringCase a b = true) : (TokenKind.word b.toList).IsLexeme := by
  rw [sameIgnoringCase_iff] at hsame
  refine ⟨fun hnil => h.1 ?_, fun c hc => ?_⟩
  · rw [hnil] at hsame
    exact List.map_eq_nil_iff.mp hsame
  · have hmem : c.toLower ∈ a.toList.map Char.toLower := by
      rw [hsame]
      exact List.mem_map_of_mem hc
    obtain ⟨d, hd, hlower⟩ := List.mem_map.mp hmem
    obtain ⟨hblank, hword⟩ := h.2 d hd
    rw [← isBlank_toLower, ← isWordCharacter_toLower, ← hlower, isBlank_toLower,
      isWordCharacter_toLower]
    exact ⟨hblank, hword⟩

/-! ## Lower case -/

theorem startsCased_map_toLower (text : List Char) :
    startsCased (text.map Char.toLower) = startsCased text := by
  have hignorable : isCaseIgnorable ∘ Char.toLower = isCaseIgnorable :=
    funext (toLower_invariant isCaseIgnorable (by decide +kernel))
  unfold startsCased
  rw [List.dropWhile_map, hignorable]
  cases text.dropWhile isCaseIgnorable with
  | nil => rfl
  | cons c rest => exact toLower_invariant isCased (by decide +kernel) c

theorem lowercaseAfter_map_toLower (before text : List Char) :
    lowercaseAfter (before.map Char.toLower) (text.map Char.toLower) =
      lowercaseAfter before text := by
  induction text generalizing before with
  | nil => rfl
  | cons c text ih =>
      have hsigma : (c.toLower = '\u03A3') = (c = '\u03A3') :=
        toLower_invariant (fun c => c = '\u03A3') (by decide) c
      have hcharacter : lowercaseCharacter c.toLower = lowercaseCharacter c :=
        toLower_invariant lowercaseCharacter (by decide +kernel) c
      have hrest := ih (c :: before)
      rw [List.map_cons] at hrest
      simp only [List.map_cons, lowercaseAfter, hsigma, hcharacter, hrest, startsCased_map_toLower]

/-- Names that agree up to the case of the letters A to Z have one lower case. -/
theorem lowercase_eq_of_sameIgnoringCase (h : sameIgnoringCase a b = true) :
    lowercase a.toList = lowercase b.toList := by
  rw [sameIgnoringCase_iff] at h
  have ha := lowercaseAfter_map_toLower [] a.toList
  rw [h] at ha
  exact ha.symm.trans (lowercaseAfter_map_toLower [] b.toList)

end KeyJoin
