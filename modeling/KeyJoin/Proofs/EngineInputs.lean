import KeyJoin.Proofs.LineBreaks
import KeyJoin.Proofs.StatementRoutes

/-!
# What the engine is given

A simulation asks the engine for at most two tables, the left one before the
right one, and for nothing else: a run is the same with any engine that answers
these questions alike.  Each input is a scan of a word that stands in the
statement.  A word holds no white space, quote, semicolon or comment mark, so
the scan is one line and five tokens whatever else the statement holds, and
only the exit command of the settings follows it.
-/

namespace KeyJoin

variable {settings : Settings} {engine other : Engine} {scanner scanner' : Scanner}
  {columns : ColumnNames} {statement relation name : String} {query : JoinQuery}
  {earlier : List String}

/-- The inputs of the engine while a statement is simulated, in order. -/
def engineInputs (settings : Settings) (engine : Engine) (statement : String) : List String :=
  (simulate settings (engineScanner settings.engine engine) statement).scans.map
    (scanInput settings.engine)

/-! ## Words of the statement -/

theorem relations_mem_kindsOf (h : recognizeJoin? columns statement = some query) :
    .word query.leftRelation.toList ∈ kindsOf statement.toList ∧
      .word query.rightRelation.toList ∈ kindsOf statement.toList := by
  obtain ⟨index, left, right, parts, ending, hread, rfl⟩ := exists_read_of_recognizeJoin? h
  have hkinds : kindsOf statement.toList = (parts.body ++ ending).map Token.kind := by
    rw [kindsOf, hread.tokens]
  simp [hkinds, JoinStatement.toQuery, StatementParts.body, StatementParts.clauseTokens,
    hread.joins.left, hread.joins.right]

theorem exists_query_of_mem_scans
    (h : relation ∈ (simulate settings scanner statement).scans) :
    ∃ query, recognizeJoin? settings.columns statement = some query ∧
      (relation = query.leftRelation ∨ relation = query.rightRelation) := by
  have hsimulates := simulates_simulate settings scanner statement
  cases hrecognized : recognizeJoin? settings.columns statement with
  | none =>
      have hend : Simulates settings scanner statement
          ⟨.error (.notAJoin (trimText statement)), []⟩ := .notAJoin hrecognized
      rw [hend.eq_simulate] at h
      cases h
  | some query =>
      have hmem := (hsimulates.scans_isPrefix hrecognized).subset h
      exact ⟨query, rfl, by simpa using hmem⟩

/-! ## One input -/

theorem isPlainLine_scanStatement (hrelation : (TokenKind.word relation.toList).IsLexeme) :
    IsPlainLine (scanStatement relation).toList := by
  have htext : (scanStatement relation).toList =
      "SELECT * FROM ".toList ++ relation.toList ++ [';'] := by
    simp [scanStatement, String.toList_append]
  have hfeed : '\n' ∉ relation.toList := by
    intro hmem
    exact absurd (hrelation.2 '\n' hmem).1 (by decide)
  rw [htext]
  refine ⟨?_, ?_⟩
  · simp [hfeed]
  · rw [List.getLast?_concat]
    decide

theorem lines_scanInput (hrelation : (TokenKind.word relation.toList).IsLexeme)
    (settings : EngineSettings) :
    lines (scanInput settings relation).toList =
      (scanStatement relation).toList :: lines (settings.exitCommand ++ "\n").toList := by
  have htext : (scanInput settings relation).toList =
      (scanStatement relation).toList ++ '\n' :: (settings.exitCommand ++ "\n").toList := by
    simp [scanInput, statementInput, String.toList_append]
  rw [htext, lines_append_feed (isPlainLine_scanStatement hrelation)]

/-! ## Questions that are asked -/

theorem ScanFails.congr {failure : Failure} (h : ScanFails settings scanner earlier name failure)
    (hsame : scanner' earlier name = scanner earlier name) :
    ScanFails settings scanner' earlier name failure := by
  cases h with
  | refused answer => exact .refused (hsame.trans answer)
  | noTable answer rejected => exact .noTable (hsame.trans answer) rejected

theorem ScanYields.congr {rows : List Row} (h : ScanYields settings scanner earlier name rows)
    (hsame : scanner' earlier name = scanner earlier name) :
    ScanYields settings scanner' earlier name rows := by
  cases h with
  | table answer accepted => exact .table (hsame.trans answer) accepted

/-- A scanner matters only by its answers to the questions of the run. -/
theorem simulate_congr
    (h : ∀ earlier name, earlier ++ [name] <+: (simulate settings scanner statement).scans →
      scanner' earlier name = scanner earlier name) :
    simulate settings scanner' statement = simulate settings scanner statement := by
  have hsimulates := simulates_simulate settings scanner statement
  generalize simulate settings scanner statement = simulation at h hsimulates
  refine Simulates.eq_simulate ?_
  cases hsimulates with
  | notAJoin unrecognized => exact .notAJoin unrecognized
  | invalidProjection recognized invalid => exact .invalidProjection recognized invalid
  | leftFails recognized valid left =>
      exact .leftFails recognized valid (left.congr (h [] _ List.prefix_rfl))
  | @rightFails query _ _ recognized valid left right =>
      have hleft := h [] query.leftRelation ⟨[query.rightRelation], rfl⟩
      have hright := h [query.leftRelation] query.rightRelation List.prefix_rfl
      exact .rightFails recognized valid (left.congr hleft) (right.congr hright)
  | @answered query _ _ recognized valid left right =>
      have hleft := h [] query.leftRelation ⟨[query.rightRelation], rfl⟩
      have hright := h [query.leftRelation] query.rightRelation List.prefix_rfl
      exact .answered recognized valid (left.congr hleft) (right.congr hright)

theorem simulate_engineScanner_congr
    (h : ∀ earlier input, earlier ++ [input] <+: engineInputs settings engine statement →
      other earlier input = engine earlier input) :
    simulate settings (engineScanner settings.engine other) statement =
      simulate settings (engineScanner settings.engine engine) statement := by
  refine simulate_congr fun earlier name hprefix => ?_
  have hinputs : earlier.map (scanInput settings.engine) ++ [scanInput settings.engine name] <+:
      engineInputs settings engine statement := by
    simpa [engineInputs] using hprefix.map (scanInput settings.engine)
  simp only [engineScanner, h _ _ hinputs]

/-! ## All inputs -/

/-- The input is the scan of a word of the statement, on a line and in tokens of its own. -/
structure ScansWord (settings : EngineSettings) (statement word input : String) : Prop where
  text : input = "SELECT * FROM " ++ word ++ ";" ++ "\n" ++ settings.exitCommand ++ "\n"
  mem : .word word.toList ∈ kindsOf statement.toList
  nonempty : word ≠ ""
  characters : ∀ c ∈ word.toList, isWordCharacter c = true
  firstLine : lines input.toList =
    ("SELECT * FROM " ++ word ++ ";").toList :: lines (settings.exitCommand ++ "\n").toList
  tokens : kindsOf ("SELECT * FROM " ++ word ++ ";").toList =
    [.word Keyword.select.letters, .star, .word Keyword.fromClause.letters, .word word.toList,
      .semicolon]

theorem scansWord_of_mem_scans
    (h : relation ∈ (simulate settings scanner statement).scans) :
    ScansWord settings.engine statement relation (scanInput settings.engine relation) := by
  obtain ⟨query, hquery, hsides⟩ := exists_query_of_mem_scans h
  obtain ⟨hleft, hright⟩ := relations_isLexeme_of_recognizeJoin? hquery
  obtain ⟨hleftMem, hrightMem⟩ := relations_mem_kindsOf hquery
  have hlexeme : (TokenKind.word relation.toList).IsLexeme := by
    rcases hsides with rfl | rfl
    · exact hleft
    · exact hright
  have hmem : .word relation.toList ∈ kindsOf statement.toList := by
    rcases hsides with rfl | rfl
    · exact hleftMem
    · exact hrightMem
  refine ⟨rfl, hmem, ?_, fun c hc => (hlexeme.2 c hc).2, lines_scanInput hlexeme settings.engine,
    kindsOf_scanStatement hlexeme⟩
  rintro rfl
  exact hlexeme.1 rfl

theorem exists_isPrefix_of_engineInputs_ne_nil
    (h : engineInputs settings engine statement ≠ []) :
    ∃ query, recognizeJoin? settings.columns statement = some query ∧
      engineInputs settings engine statement <+:
        [scanInput settings.engine query.leftRelation,
          scanInput settings.engine query.rightRelation] := by
  obtain ⟨input, hinput⟩ := List.exists_mem_of_ne_nil _ h
  obtain ⟨relation, hscan, -⟩ := List.mem_map.mp hinput
  obtain ⟨query, hquery, -⟩ := exists_query_of_mem_scans hscan
  have hscans := (simulates_simulate settings (engineScanner settings.engine engine)
    statement).scans_isPrefix hquery
  exact ⟨query, hquery, hscans.map _⟩

/-- While a statement is simulated, the engine is given the scans of two words of it at most, those
of the left and then of the right relation, and is asked for nothing else. -/
theorem engineInputs_scan_words (settings : Settings) (engine : Engine) (statement : String) :
    let inputs := engineInputs settings engine statement
    (∀ input ∈ inputs, ∃ word, ScansWord settings.engine statement word input) ∧
    inputs.length ≤ 2 ∧
    (inputs ≠ [] → ∃ query, recognizeJoin? settings.columns statement = some query ∧
      inputs <+: [scanInput settings.engine query.leftRelation,
        scanInput settings.engine query.rightRelation]) ∧
    (∀ other : Engine,
      (∀ earlier input, earlier ++ [input] <+: inputs →
        other earlier input = engine earlier input) →
      simulate settings (engineScanner settings.engine other) statement =
        simulate settings (engineScanner settings.engine engine) statement) ∧
    ∀ options stamp query, recognizeJoin? settings.columns statement = some query →
      (runStatement settings options stamp engine statement).inputs = inputs := by
  intro inputs
  refine ⟨fun input hinput => ?_, ?_, exists_isPrefix_of_engineInputs_ne_nil,
    fun other => simulate_engineScanner_congr, fun options stamp query hquery =>
    (runStatement_of_recognized options stamp engine hquery).1⟩
  · obtain ⟨relation, hscan, rfl⟩ := List.mem_map.mp hinput
    exact ⟨relation, scansWord_of_mem_scans hscan⟩
  · by_cases hnil : inputs = []
    · simp [hnil]
    · obtain ⟨query, -, hprefix⟩ := exists_isPrefix_of_engineInputs_ne_nil hnil
      simpa using hprefix.length_le

/-- Quotes, a comment mark, line feeds and an engine command stand in the condition, and a relation
is written with letters that are not ASCII. -/
theorem engineInputs_scan_words_of_quotes :
    let engine : Engine := fun _ _ => .ok ⟨"1 | x\n", "", some 0⟩
    let statement := "select *\nfrom übung INNER JOIN b_2\non '\"' = -- `\nexit or $(drop)"
    let inputs := engineInputs {} engine statement
    inputs = ["SELECT * FROM übung;\nexit;\n", "SELECT * FROM b_2;\nexit;\n"] ∧
      ∃ word, ScansWord {} statement word "SELECT * FROM übung;\nexit;\n" := by
  intro engine statement inputs
  have hinputs : inputs =
      ["SELECT * FROM übung;\nexit;\n", "SELECT * FROM b_2;\nexit;\n"] := by
    decide +kernel
  have hfirst : "SELECT * FROM übung;\nexit;\n" ∈ inputs := by
    rw [hinputs]
    exact List.mem_cons_self
  obtain ⟨hscans, -⟩ := engineInputs_scan_words {} engine statement
  exact ⟨hinputs, hscans _ hfirst⟩

end KeyJoin
