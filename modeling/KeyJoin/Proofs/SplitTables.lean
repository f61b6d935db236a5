import KeyJoin.Proofs.JoinedRows
import KeyJoin.Proofs.PrintedLines

/-!
# Tables cut at the end of a line

A table may be cut behind any line feed.  If both parts are tables, so is the
whole, and its rows are those of the first part and then those of the second
one.  What a join answers over the whole is put together from what it answers
over the parts: row counts and matched rows are added, and the printed lines of
the parts follow one another.  For a table on the right side the lines are the
same in number, but those of the second part come between those of the first,
since the answer goes through the rows on the left.
-/

namespace KeyJoin

variable {settings : Settings} {statement : String} {query : JoinQuery}
  {markers : LineMarkers} {first second : String}

/-! ## Two parts of a table -/

theorem lines_toList_append (hfeed : first.toList.getLast? = some '\n') (second : String) :
    lines (first ++ second).toList = lines first.toList ++ lines second.toList := by
  rw [String.toList_append, lines_append hfeed]

theorem parseRows_append (hfeed : first.toList.getLast? = some '\n') (discard : List String)
    (second : String) :
    parseRows discard (first ++ second) = parseRows discard first ++ parseRows discard second := by
  rw [parseRows, lines_toList_append hfeed, List.filterMap_append]
  rfl

theorem failureMarker?_append (hfeed : first.toList.getLast? = some '\n') (failure : List String)
    (second : String) :
    failureMarker? failure (first ++ second) =
      (failureMarker? failure first).or (failureMarker? failure second) := by
  rw [failureMarker?, lines_toList_append hfeed, List.filter_append, List.findSome?_append]
  rfl

theorem checkScan_eq_ok_iff {text : String} :
    checkScan markers text = .ok () ↔
      trim text.toList ≠ [] ∧ failureMarker? markers.failure text = none := by
  unfold checkScan
  cases htrim : trim text.toList with
  | nil => simp
  | cons c rest => cases failureMarker? markers.failure text <;> simp

theorem trim_append_ne_nil {a : List Char} (ha : trim a ≠ []) (b : List Char) :
    trim (a ++ b) ≠ [] := by
  rw [Ne, trim_eq_nil_iff] at ha ⊢
  exact fun hblank => ha fun c hc => hblank c (List.mem_append_left b hc)

theorem checkScan_append (hfeed : first.toList.getLast? = some '\n')
    (hfirst : checkScan markers first = .ok ()) (hsecond : checkScan markers second = .ok ()) :
    checkScan markers (first ++ second) = .ok () := by
  obtain ⟨htext, hnone⟩ := checkScan_eq_ok_iff.mp hfirst
  obtain ⟨-, hnone'⟩ := checkScan_eq_ok_iff.mp hsecond
  refine checkScan_eq_ok_iff.mpr ⟨?_, ?_⟩
  · rw [String.toList_append]
    exact trim_append_ne_nil htext second.toList
  · rw [failureMarker?_append hfeed, hnone, hnone']
    rfl

/-! ## Lines and counts of a join -/

theorem Projection.lines_outputIn (projection : Projection) (left right : List Row) :
    (projection.outputIn left right).lines = projection.linesIn left right := by
  by_cases hcount : matchCount left right = 0
  · have hlength := projection.length_linesIn left right
    rw [hcount, List.length_eq_zero_iff] at hlength
    rw [Projection.outputIn, if_pos hcount, hlength]
    rfl
  · rw [projection.outputIn_of_matchCount_ne_zero hcount]
    rfl

theorem length_joinRows (left right : List Row) :
    (joinRows left right).length = matchCount left right := by
  rw [joinRows_eq_map_matchingPairs, List.length_map, length_matchingPairs]

section Parts

variable (projection : Projection) (left right before after : List Row)

theorem Projection.linesIn_append_left :
    projection.linesIn (before ++ after) right =
      projection.linesIn before right ++ projection.linesIn after right := by
  simp only [Projection.linesIn_eq_map_joinRows, joinRows_append_left, List.map_append]

theorem Projection.linesIn_append_right_perm :
    (projection.linesIn left (before ++ after)).Perm
      (projection.linesIn left before ++ projection.linesIn left after) := by
  simp only [Projection.linesIn_eq_map_joinRows, ← List.map_append]
  exact (joinRows_append_right_perm left before after).map _

theorem matchCount_append_left :
    matchCount (before ++ after) right = matchCount before right + matchCount after right := by
  simp only [← length_joinRows, joinRows_append_left, List.length_append]

theorem matchCount_append_right :
    matchCount left (before ++ after) = matchCount left before + matchCount left after := by
  simp only [← length_joinRows]
  rw [(joinRows_append_right_perm left before after).length_eq, List.length_append]

end Parts

/-! ## Runs over two tables -/

/-- The scanner gives these texts for the relations of the query, in the order it is asked. -/
structure Scanner.Shows (scanner : Scanner) (query : JoinQuery) (leftText rightText : String) :
    Prop where
  left : scanner [] query.leftRelation = .ok leftText
  right : scanner [query.leftRelation] query.rightRelation = .ok rightText

/-- Two tables held in memory are told apart by their names. -/
theorem Tables.shows_scanner (hne : query.leftRelation ≠ query.rightRelation)
    (leftText rightText : String) :
    (Tables.scanner
      [(query.leftRelation, leftText), (query.rightRelation, rightText)]).Shows query
        leftText rightText := by
  have hother : (query.rightRelation == query.leftRelation) = false := by
    simpa using hne.symm
  constructor
  · simp [Tables.scanner]
  · simp [Tables.scanner, List.lookup_cons, hother]

/-- The outcome of the query over two texts. -/
def JoinQuery.outcomeOver (query : JoinQuery) (discard : List String)
    (leftText rightText : String) : Outcome :=
  query.answer (parseRows discard leftText) (parseRows discard rightText)

theorem Scanner.Shows.simulate_eq {scanner : Scanner} {leftText rightText : String}
    (h : scanner.Shows query leftText rightText)
    (hquery : recognizeJoin? settings.columns statement = some query)
    (hvalid : query.projection.IsValid)
    (hleft : checkScan settings.markers leftText = .ok ())
    (hright : checkScan settings.markers rightText = .ok ()) :
    (simulate settings scanner statement).result =
      .ok (query.outcomeOver settings.markers.discard leftText rightText) := by
  have hend := Simulates.answered hquery hvalid (.table h.left hleft) (.table h.right hright)
  rw [hend.eq_simulate]
  rfl

/-- A run over a table cut behind a line feed adds up from the runs over its parts. -/
theorem simulate_split_table (settings : Settings) (statement : String) (query : JoinQuery)
    (hquery : recognizeJoin? settings.columns statement = some query)
    (hvalid : query.projection.IsValid) (first second other : String)
    (hfeed : first.toList.getLast? = some '\n')
    (hfirst : checkScan settings.markers first = .ok ())
    (hsecond : checkScan settings.markers second = .ok ())
    (hother : checkScan settings.markers other = .ok ()) :
    checkScan settings.markers (first ++ second) = .ok () ∧
    (∀ whole head tail : Scanner,
      whole.Shows query (first ++ second) other → head.Shows query first other →
      tail.Shows query second other →
      ∃ total part rest : Outcome,
        (simulate settings whole statement).result = .ok total ∧
        (simulate settings head statement).result = .ok part ∧
        (simulate settings tail statement).result = .ok rest ∧
        total.output.lines = part.output.lines ++ rest.output.lines ∧
        total.leftRows = part.leftRows + rest.leftRows ∧
        total.rightRows = part.rightRows ∧ total.rightRows = rest.rightRows ∧
        total.matchedRows = part.matchedRows + rest.matchedRows) ∧
    (∀ whole head tail : Scanner,
      whole.Shows query other (first ++ second) → head.Shows query other first →
      tail.Shows query other second →
      ∃ total part rest : Outcome,
        (simulate settings whole statement).result = .ok total ∧
        (simulate settings head statement).result = .ok part ∧
        (simulate settings tail statement).result = .ok rest ∧
        total.output.lines.Perm (part.output.lines ++ rest.output.lines) ∧
        total.rightRows = part.rightRows + rest.rightRows ∧
        total.leftRows = part.leftRows ∧ total.leftRows = rest.leftRows ∧
        total.matchedRows = part.matchedRows + rest.matchedRows) ∧
    (query.leftRelation ≠ query.rightRelation → ∀ leftText rightText,
      (Tables.scanner
        [(query.leftRelation, leftText), (query.rightRelation, rightText)]).Shows query
          leftText rightText) := by
  have hwhole := checkScan_append hfeed hfirst hsecond
  have hrows := parseRows_append hfeed settings.markers.discard second
  refine ⟨hwhole, fun whole head tail hshows hhead htail => ?_,
    fun whole head tail hshows hhead htail => ?_, Tables.shows_scanner⟩
  · refine ⟨_, _, _, hshows.simulate_eq hquery hvalid hwhole hother,
      hhead.simulate_eq hquery hvalid hfirst hother,
      htail.simulate_eq hquery hvalid hsecond hother, ?_, ?_, rfl, rfl, ?_⟩
    · simp only [JoinQuery.outcomeOver, JoinQuery.answer, Projection.lines_outputIn, hrows,
        Projection.linesIn_append_left]
    · simp only [JoinQuery.outcomeOver, JoinQuery.answer, hrows, List.length_append]
    · simp only [JoinQuery.outcomeOver, JoinQuery.answer, hrows, matchCount_append_left]
  · refine ⟨_, _, _, hshows.simulate_eq hquery hvalid hother hwhole,
      hhead.simulate_eq hquery hvalid hother hfirst,
      htail.simulate_eq hquery hvalid hother hsecond, ?_, ?_, rfl, rfl, ?_⟩
    · simp only [JoinQuery.outcomeOver, JoinQuery.answer, Projection.lines_outputIn, hrows]
      exact query.projection.linesIn_append_right_perm _ _ _
    · simp only [JoinQuery.outcomeOver, JoinQuery.answer, hrows, List.length_append]
    · simp only [JoinQuery.outcomeOver, JoinQuery.answer, hrows, matchCount_append_right]

/-- On the right side the row of the second part is printed between those of the first one. -/
theorem simulate_split_table_of_interleaved_rows :
    let first := "id | age\r\n1 | 5\n2 | FAILURE\n"
    let second := "SQL_SYNTAX >\n1 | 7"
    let other := "1 | p\n2 | q"
    let statement := "SELECT a.name, b.age FROM a INNER JOIN b ON a.id = b.id"
    let tables (leftText rightText : String) := Tables.scanner [("a", leftText), ("b", rightText)]
    checkScan {} (first ++ second) = .ok () ∧
    ∃ total part rest : Outcome,
      (simulate {} (tables other (first ++ second)) statement).result = .ok total ∧
      (simulate {} (tables other first) statement).result = .ok part ∧
      (simulate {} (tables other second) statement).result = .ok rest ∧
      total.output.lines = ["p | 5", "p | 7", "q | FAILURE"] ∧
      part.output.lines = ["p | 5", "q | FAILURE"] ∧ rest.output.lines = ["p | 7"] ∧
      total.output.lines.Perm (part.output.lines ++ rest.output.lines) ∧
      total.matchedRows = part.matchedRows + rest.matchedRows := by
  intro first second other statement tables
  let query : JoinQuery :=
    { projection := .several [⟨"a", "name", .left, 1⟩, ⟨"b", "age", .right, 1⟩]
      fieldsText := "a.name, b.age"
      leftRelation := "a"
      rightRelation := "b"
      conditionText := "a.id = b.id"
      keyCondition? := some ⟨⟨some "a", "id"⟩, ⟨some "b", "id"⟩⟩ }
  have hquery : recognizeJoin? {} statement = some query := by decide +kernel
  have hvalid : query.projection.IsValid := by
    intro field fault suggestion
    simp [query]
  obtain ⟨haccepted, -, hright, hshows⟩ := simulate_split_table {} statement query hquery hvalid
    first second other (by decide +kernel) (by decide +kernel) (by decide +kernel)
    (by decide +kernel)
  have htables : ∀ leftText rightText, (tables leftText rightText).Shows query leftText rightText :=
    hshows (by decide)
  obtain ⟨total, part, rest, htotal, hpart, hrest, hlines, -, -, -, hmatched⟩ :=
    hright _ _ _ (htables other (first ++ second)) (htables other first) (htables other second)
  have hwhole : (simulate {} (tables other (first ++ second)) statement).result =
      .ok ⟨"a", "b", "a.id = b.id", "a.name, b.age", 2, 3, 3,
        .rows ["p | 5", "p | 7", "q | FAILURE"]⟩ := by
    decide +kernel
  have hhead : (simulate {} (tables other first) statement).result =
      .ok ⟨"a", "b", "a.id = b.id", "a.name, b.age", 2, 2, 2, .rows ["p | 5", "q | FAILURE"]⟩ := by
    decide +kernel
  have htail : (simulate {} (tables other second) statement).result =
      .ok ⟨"a", "b", "a.id = b.id", "a.name, b.age", 2, 1, 1, .rows ["p | 7"]⟩ := by
    decide +kernel
  rw [hwhole] at htotal
  rw [hhead] at hpart
  rw [htail] at hrest
  cases htotal
  cases hpart
  cases hrest
  exact ⟨haccepted, _, _, _, hwhole, hhead, htail, rfl, rfl, rfl, hlines, hmatched⟩

end KeyJoin
