import KeyJoin.Proofs.DataLines
import KeyJoin.Proofs.SimulationRun

/-!
# Two readings of one text

A scanned text is read twice: once for a failure marker and once for its rows.
The check reads the other lines only, and of the data lines no more than that
they are there; the rows come from the data lines only.  So a cell can fail no
scan and a diagnostic can become no row.  The markers of the settings are any
texts, the empty one and those with bars or digits among them, and do not decide
which of the two readings a line belongs to.
-/

namespace KeyJoin

variable {markers : LineMarkers} {failure discard : List String} {text other : String}
  {line : List Char} {marker : String}

def dataLines (text : String) : List (List Char) :=
  (lines text.toList).filter fun line => HasDataForm line

def otherLines (text : String) : List (List Char) :=
  (lines text.toList).filter fun line => ¬ HasDataForm line

/-- The first marker of the list that stands in the line. -/
def HoldsFirst (markers : List String) (line : List Char) (marker : String) : Prop :=
  ∃ before after, markers = before ++ marker :: after ∧ marker.toList <:+: line ∧
    ∀ earlier ∈ before, ¬ earlier.toList <:+: line

/-- The text is no table: it is blank, or the first of its other lines with a marker in it holds
this one first. -/
inductive RefusedFor (failure : List String) (text : String) : ScanFault → Prop
  | blank (hblank : IsBlankText text.toList) : RefusedFor failure text .noOutput
  | marked {before after : List (List Char)} {line : List Char} {marker : String}
      (hshown : ¬ IsBlankText text.toList) (hlines : otherLines text = before ++ line :: after)
      (hbefore : ∀ earlier ∈ before, ∀ marker ∈ failure, ¬ marker.toList <:+: earlier)
      (hline : HoldsFirst failure line marker) : RefusedFor failure text (.failureMarker marker)

/-! ## The check of a scan -/

theorem find?_occursIn_eq_some_iff :
    (failure.find? fun marker => occursIn marker.toList line) = some marker ↔
      HoldsFirst failure line marker := by
  rw [List.find?_eq_some_iff_append, HoldsFirst]
  simp only [Bool.not_eq_true', Bool.eq_false_iff, ne_eq, occursIn_iff]
  constructor
  · rintro ⟨hline, before, after, hmarkers, hbefore⟩
    exact ⟨before, after, hmarkers, hline, hbefore⟩
  · rintro ⟨before, after, hmarkers, hline, hbefore⟩
    exact ⟨hline, before, after, hmarkers, hbefore⟩

theorem find?_occursIn_eq_none_iff :
    (failure.find? fun marker => occursIn marker.toList line) = none ↔
      ∀ marker ∈ failure, ¬ marker.toList <:+: line := by
  simp only [List.find?_eq_none, occursIn_iff]

theorem failureMarker?_eq_findSome?_otherLines (failure : List String) (text : String) :
    failureMarker? failure text =
      (otherLines text).findSome? fun line =>
        failure.find? fun marker => occursIn marker.toList line := by
  have hclass : ∀ line, (dataCells? line).isNone = decide (¬ HasDataForm line) := by
    intro line
    rw [Bool.eq_iff_iff, decide_eq_true_iff, ← dataCells?_isSome_iff]
    simp
  simp only [failureMarker?, otherLines, hclass]

theorem failureMarker?_eq_some_iff :
    failureMarker? failure text = some marker ↔
      ∃ before line after, otherLines text = before ++ line :: after ∧
        HoldsFirst failure line marker ∧
        ∀ earlier ∈ before, ∀ marker ∈ failure, ¬ marker.toList <:+: earlier := by
  rw [failureMarker?_eq_findSome?_otherLines, List.findSome?_eq_some_iff]
  simp only [find?_occursIn_eq_some_iff, find?_occursIn_eq_none_iff]

theorem failureMarker?_eq_none_iff :
    failureMarker? failure text = none ↔
      ∀ line ∈ otherLines text, ∀ marker ∈ failure, ¬ marker.toList <:+: line := by
  rw [failureMarker?_eq_findSome?_otherLines, List.findSome?_eq_none_iff]
  simp only [find?_occursIn_eq_none_iff]

theorem checkScan_of_isBlankText (hblank : IsBlankText text.toList) :
    checkScan markers text = .error .noOutput := by
  simp [checkScan, trim_eq_nil_iff.mpr hblank]

/-- Of a text that shows something only the other lines are read. -/
theorem checkScan_of_shown (hshown : ¬ IsBlankText text.toList) :
    checkScan markers text =
      match failureMarker? markers.failure text with
      | some marker => .error (.failureMarker marker)
      | none => .ok () := by
  have htrim : ¬ (trim text.toList).isEmpty = true := by
    rwa [List.isEmpty_iff, trim_eq_nil_iff]
  unfold checkScan
  exact if_neg htrim

theorem checkScan_eq_error_iff {fault : ScanFault} :
    checkScan markers text = .error fault ↔ RefusedFor markers.failure text fault := by
  constructor
  · intro h
    by_cases hblank : IsBlankText text.toList
    · rw [checkScan_of_isBlankText hblank] at h
      cases h
      exact .blank hblank
    · rw [checkScan_of_shown hblank] at h
      cases hmarker : failureMarker? markers.failure text with
      | none => rw [hmarker] at h; cases h
      | some marker =>
          rw [hmarker] at h
          cases h
          obtain ⟨before, line, after, hlines, hline, hbefore⟩ :=
            failureMarker?_eq_some_iff.mp hmarker
          exact .marked hblank hlines hbefore hline
  · intro h
    cases h with
    | blank hblank => exact checkScan_of_isBlankText hblank
    | marked hshown hlines hbefore hline =>
        rw [checkScan_of_shown hshown,
          failureMarker?_eq_some_iff.mpr ⟨_, _, _, hlines, hline, hbefore⟩]

theorem exists_checkScan_eq_error_iff :
    (∃ fault, checkScan markers text = .error fault) ↔
      IsBlankText text.toList ∨
        ∃ line ∈ otherLines text, ∃ marker ∈ markers.failure, marker.toList <:+: line := by
  by_cases hblank : IsBlankText text.toList
  · simp [checkScan_of_isBlankText hblank, hblank]
  · rw [checkScan_of_shown hblank]
    cases hmarker : failureMarker? markers.failure text with
    | none => simpa [hblank] using failureMarker?_eq_none_iff.mp hmarker
    | some marker =>
        have hsome : ¬ ∀ line ∈ otherLines text, ∀ marker ∈ markers.failure,
            ¬ marker.toList <:+: line := by
          rw [← failureMarker?_eq_none_iff, hmarker]
          exact Option.some_ne_none marker
        simpa [hblank] using hsome

theorem loadRelation_eq_error_iff_of_answer {scanner : Scanner} {earlier : List String}
    {name : String} (answer : scanner earlier name = .ok text) {refusal : Failure} :
    loadRelation markers scanner earlier name = .error refusal ↔
      ∃ fault, refusal = .scan name fault ∧ RefusedFor markers.failure text fault := by
  simp only [loadRelation, answer, ← checkScan_eq_error_iff]
  cases checkScan markers text with
  | error fault => simp [eq_comm]
  | ok => simp

/-! ## The rows of a scan -/

/-- A discard marker only takes data lines away. -/
theorem parseRows_eq_filterMap_dataLines (discard : List String) (text : String) :
    parseRows discard text =
      ((dataLines text).filter fun line => !holdsAny discard line).filterMap (rowOfLine? []) := by
  rw [dataLines, List.filter_filter, List.filterMap_filter, parseRows]
  refine List.filterMap_congr fun line _ => ?_
  cases hdiscard : holdsAny discard line with
  | true => simp [rowOfLine?, hdiscard]
  | false =>
      have hrow : rowOfLine? discard line = rowOfLine? [] line := by
        rw [rowOfLine?, hdiscard]
        rfl
      by_cases hform : HasDataForm line
      · simp [hform, hrow]
      · rw [← dataCells?_isSome_iff, Option.not_isSome_iff_eq_none] at hform
        simp [rowOfLine?, hform]

theorem parseRows_sublist {more : List String} (hsubset : discard ⊆ more) (text : String) :
    (parseRows more text).Sublist (parseRows discard text) := by
  rw [parseRows_eq_filterMap_dataLines, parseRows_eq_filterMap_dataLines]
  refine (List.monotone_filter_right _ fun line hmore => ?_).filterMap _
  simp only [Bool.not_eq_true', holdsAny_eq_false_iff] at hmore ⊢
  exact fun marker hmarker => hmore marker (hsubset hmarker)

/-- The check of a scan and the reading of its rows go by different lines of the text. -/
theorem scan_readings_disjoint (markers : LineMarkers) (text : String) :
    ((∃ fault, checkScan markers text = .error fault) ↔
      IsBlankText text.toList ∨
        ∃ line ∈ otherLines text, ∃ marker ∈ markers.failure, marker.toList <:+: line) ∧
    (∀ fault, checkScan markers text = .error fault ↔ RefusedFor markers.failure text fault) ∧
    (∀ scanner earlier name, scanner earlier name = .ok text → ∀ refusal,
      loadRelation markers scanner earlier name = .error refusal ↔
        ∃ fault, refusal = .scan name fault ∧ RefusedFor markers.failure text fault) ∧
    (∀ other, ¬ IsBlankText text.toList → ¬ IsBlankText other.toList →
      otherLines text = otherLines other → checkScan markers text = checkScan markers other) ∧
    (∀ other, dataLines text = dataLines other → ∀ discard,
      parseRows discard text = parseRows discard other) ∧
    ∀ discard more, discard ⊆ more →
      (parseRows more text).Sublist (parseRows discard text) := by
  refine ⟨exists_checkScan_eq_error_iff, fun fault => checkScan_eq_error_iff,
    fun scanner earlier name answer refusal => loadRelation_eq_error_iff_of_answer answer,
    fun other hshown hother hlines => ?_, fun other hlines discard => ?_,
    fun discard more hsubset => parseRows_sublist hsubset text⟩
  · rw [checkScan_of_shown hshown, checkScan_of_shown hother,
      failureMarker?_eq_findSome?_otherLines, failureMarker?_eq_findSome?_otherLines, hlines]
  · rw [parseRows_eq_filterMap_dataLines, parseRows_eq_filterMap_dataLines, hlines]

/-- The marker in a cell is passed over, the earlier one of the list in the last line is named. -/
theorem scan_readings_disjoint_of_marker_in_cell :
    let text := "id | name\n1 | FAILURE\n2 | b\nFAILURE: Failed to parse sql\n"
    let shuffled := "7 | Failed to parse sql\nid | name\nFAILURE: Failed to parse sql\n"
    let bare := "1 | FAILURE\nprompt >\n2 | b"
    let refusal := Failure.scan "t" (.failureMarker "Failed to parse sql")
    loadRelation {} (Tables.scanner [("t", text)]) [] "t" = .error refusal ∧
    checkScan {} text = checkScan {} shuffled ∧
    (∀ discard, parseRows discard text = parseRows discard bare) ∧
    (parseRows ["FAIL", "b"] text).Sublist (parseRows ["b"] text) := by
  intro text shuffled bare refusal
  obtain ⟨-, -, hrefusal, hverdict, hrows, hsublist⟩ := scan_readings_disjoint {} text
  refine ⟨(hrefusal _ _ _ (by decide +kernel) refusal).mpr ⟨_, rfl, ?_⟩,
    hverdict shuffled (by decide +kernel) (by decide +kernel) (by decide +kernel),
    hrows bare (by decide +kernel), hsublist ["b"] ["FAIL", "b"] (by decide)⟩
  have hlines : otherLines text =
      ["id | name".toList] ++ "FAILURE: Failed to parse sql".toList :: [] := by
    decide +kernel
  have hline : HoldsFirst ["Failed to parse sql", "FAILURE"]
      "FAILURE: Failed to parse sql".toList "Failed to parse sql" :=
    ⟨[], ["FAILURE"], rfl, by decide +kernel, by simp⟩
  exact .marked (by decide +kernel) hlines (by decide +kernel) hline

end KeyJoin
