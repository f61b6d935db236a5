import KeyJoin.Proofs.EngineScans
import KeyJoin.StatementRouting

/-!
# Routes of a statement

A statement takes one of ten routes, and the statement, the options and the
answers of the engine determine which.  The route fixes the exit code, what is
printed and what the engine is given.  A join statement that is not just printed
costs the engine two scans at most, the left one before the right one and none
after a failure, and it is never handed to the engine itself; its exit code is
zero exactly when the simulation answers.
-/

namespace KeyJoin

/-- The end that the routing of a trimmed statement comes to. -/
inductive Routes (settings : Settings) (options : RouteOptions) (stamp : RunStamp)
    (engine : Engine) (statement : String) : Routed → Prop
  | blank (empty : statement = "") :
      Routes settings options stamp engine statement (reportFailure options (.notAJoin "") [])
  | printed {query : JoinQuery}
      (printing : options.commaJoinOnly = true)
      (recognized : recognizeJoin? settings.columns statement = some query) :
      Routes settings options stamp engine statement ⟨0, query.commaJoin ++ "\n", "", []⟩
  | notPrinted
      (nonempty : statement ≠ "")
      (printing : options.commaJoinOnly = true)
      (unrecognized : recognizeJoin? settings.columns statement = none) :
      Routes settings options stamp engine statement
        (reportFailure options (.notAJoin statement) [])
  | invalidProjection {query : JoinQuery} {field : String} {fault : FieldFault}
      {suggestion : Option String}
      (running : options.commaJoinOnly = false)
      (recognized : recognizeJoin? settings.columns statement = some query)
      (invalid : query.projection = .invalid field fault suggestion) :
      Routes settings options stamp engine statement
        (reportFailure options (.fieldReference field fault suggestion) [])
  | leftFails {query : JoinQuery} {fault : ScanFault}
      (running : options.commaJoinOnly = false)
      (recognized : recognizeJoin? settings.columns statement = some query)
      (valid : query.projection.IsValid)
      (left : AnswerFails settings.markers
        (engine.scanAnswer settings.engine [] query.leftRelation) fault) :
      Routes settings options stamp engine statement
        (reportFailure options (.scan query.leftRelation fault)
          [scanInput settings.engine query.leftRelation])
  | rightFails {query : JoinQuery} {leftRows : List Row} {fault : ScanFault}
      (running : options.commaJoinOnly = false)
      (recognized : recognizeJoin? settings.columns statement = some query)
      (valid : query.projection.IsValid)
      (left : AnswerYields settings.markers
        (engine.scanAnswer settings.engine [] query.leftRelation) leftRows)
      (right : AnswerFails settings.markers
        (engine.scanAnswer settings.engine [query.leftRelation] query.rightRelation) fault) :
      Routes settings options stamp engine statement
        (reportFailure options (.scan query.rightRelation fault)
          [scanInput settings.engine query.leftRelation,
            scanInput settings.engine query.rightRelation])
  | answered {query : JoinQuery} {leftRows rightRows : List Row}
      (running : options.commaJoinOnly = false)
      (recognized : recognizeJoin? settings.columns statement = some query)
      (valid : query.projection.IsValid)
      (left : AnswerYields settings.markers
        (engine.scanAnswer settings.engine [] query.leftRelation) leftRows)
      (right : AnswerYields settings.markers
        (engine.scanAnswer settings.engine [query.leftRelation] query.rightRelation) rightRows) :
      Routes settings options stamp engine statement
        ⟨0, outcomeText settings options stamp (query.answer leftRows rightRows), "",
          [scanInput settings.engine query.leftRelation,
            scanInput settings.engine query.rightRelation]⟩
  | forwarded {output : EngineOutput}
      (nonempty : statement ≠ "")
      (running : options.commaJoinOnly = false)
      (unrecognized : recognizeJoin? settings.columns statement = none)
      (passing : options.passthrough = true)
      (answer : engine [] (statementInput settings.engine statement) = .ok output) :
      Routes settings options stamp engine statement
        ⟨output.status?.getD 1, output.out, output.err,
          [statementInput settings.engine statement]⟩
  | notStarted {fault : SystemFault}
      (nonempty : statement ≠ "")
      (running : options.commaJoinOnly = false)
      (unrecognized : recognizeJoin? settings.columns statement = none)
      (passing : options.passthrough = true)
      (answer : engine [] (statementInput settings.engine statement) = .error fault) :
      Routes settings options stamp engine statement
        (reportFailure options (.system fault) [statementInput settings.engine statement])
  | refused
      (nonempty : statement ≠ "")
      (running : options.commaJoinOnly = false)
      (unrecognized : recognizeJoin? settings.columns statement = none)
      (stopping : options.passthrough = false) :
      Routes settings options stamp engine statement
        (reportFailure options (.notAJoin statement) [])

variable {settings : Settings} {options : RouteOptions} {stamp : RunStamp} {engine : Engine}
  {statement : String} {routed : Routed}

/-! ## The route that is taken -/

theorem routes_printCommaJoin (htrim : trimText statement = statement) (hne : statement ≠ "")
    (hprinting : options.commaJoinOnly = true) :
    Routes settings options stamp engine statement
      (printCommaJoin settings options statement) := by
  unfold printCommaJoin extractJoin
  cases hrecognized : recognizeJoin? settings.columns statement with
  | some query => exact .printed hprinting hrecognized
  | none =>
      simp only [htrim]
      exact .notPrinted hne hprinting hrecognized

theorem routes_forwardInput (hne : statement ≠ "") (hrunning : options.commaJoinOnly = false)
    (hnone : recognizeJoin? settings.columns statement = none)
    (hpassing : options.passthrough = true) :
    Routes settings options stamp engine statement
      (forwardInput options engine [] (statementInput settings.engine statement)) := by
  unfold forwardInput
  cases hanswer : engine [] (statementInput settings.engine statement) with
  | ok output => exact .forwarded hne hrunning hnone hpassing hanswer
  | error fault => exact .notStarted hne hrunning hnone hpassing hanswer

theorem routes_runStatement (htrim : trimText statement = statement) (hne : statement ≠ "")
    (hrunning : options.commaJoinOnly = false) :
    Routes settings options stamp engine statement
      (runStatement settings options stamp engine statement) := by
  have hsimulates := simulates_simulate settings (engineScanner settings.engine engine) statement
  unfold runStatement
  generalize simulate settings (engineScanner settings.engine engine) statement = simulation
    at hsimulates ⊢
  cases hsimulates with
  | notAJoin unrecognized =>
      rw [htrim]
      dsimp only [List.map_nil]
      split
      · rename_i hpassing
        exact routes_forwardInput hne hrunning unrecognized hpassing
      · rename_i hstopping
        exact .refused hne hrunning unrecognized (by simpa using hstopping)
  | invalidProjection recognized invalid =>
      exact .invalidProjection hrunning recognized invalid
  | leftFails recognized valid left =>
      obtain ⟨fault, rfl, hleft⟩ := scanFails_engineScanner_iff.mp left
      exact .leftFails hrunning recognized valid hleft
  | rightFails recognized valid left right =>
      obtain ⟨fault, rfl, hright⟩ := scanFails_engineScanner_iff.mp right
      exact .rightFails hrunning recognized valid (scanYields_engineScanner_iff.mp left) hright
  | answered recognized valid left right =>
      exact .answered hrunning recognized valid (scanYields_engineScanner_iff.mp left)
        (scanYields_engineScanner_iff.mp right)

theorem routes_routeStatement (settings : Settings) (options : RouteOptions) (stamp : RunStamp)
    (engine : Engine) (statement : String) :
    Routes settings options stamp engine (trimText statement)
      (routeStatement settings options stamp engine statement) := by
  have htrim := trimText_trimText statement
  unfold routeStatement
  generalize trimText statement = text at htrim ⊢
  dsimp only
  split
  · rename_i hempty
    exact .blank (String.isEmpty_iff.mp hempty)
  · rename_i hnonempty
    have hne : text ≠ "" := fun h => hnonempty (String.isEmpty_iff.mpr h)
    split
    · rename_i hprinting
      exact routes_printCommaJoin htrim hne hprinting
    · rename_i hrunning
      exact routes_runStatement htrim hne (by simpa using hrunning)

/-! ## No other route -/

theorem ne_empty_of_recognizeJoin? {columns : ColumnNames} {query : JoinQuery}
    (h : recognizeJoin? columns statement = some query) : statement ≠ "" := by
  rintro rfl
  cases h

theorem routeStatement_of_printing (hne : trimText statement ≠ "")
    (hprinting : options.commaJoinOnly = true) :
    routeStatement settings options stamp engine statement =
      printCommaJoin settings options (trimText statement) := by
  have hnonempty : ¬ (trimText statement).isEmpty = true :=
    fun h => hne (String.isEmpty_iff.mp h)
  simp only [routeStatement, if_neg hnonempty, if_pos hprinting]

theorem routeStatement_of_running (hne : trimText statement ≠ "")
    (hrunning : options.commaJoinOnly = false) :
    routeStatement settings options stamp engine statement =
      runStatement settings options stamp engine (trimText statement) := by
  have hnonempty : ¬ (trimText statement).isEmpty = true :=
    fun h => hne (String.isEmpty_iff.mp h)
  simp only [routeStatement, if_neg hnonempty, hrunning, Bool.false_eq_true, if_false]

theorem runStatement_of_unrecognized (htrim : trimText statement = statement)
    (hnone : recognizeJoin? settings.columns statement = none) :
    runStatement settings options stamp engine statement =
      if options.passthrough then
        forwardInput options engine [] (statementInput settings.engine statement)
      else reportFailure options (.notAJoin statement) [] := by
  have hend : Simulates settings (engineScanner settings.engine engine) statement
      ⟨.error (.notAJoin (trimText statement)), []⟩ := .notAJoin hnone
  simp only [runStatement, hend.eq_simulate, htrim, List.map_nil]

theorem Routes.routeStatement_eq
    (h : Routes settings options stamp engine (trimText statement) routed) :
    routeStatement settings options stamp engine statement = routed := by
  have htrim := trimText_trimText statement
  cases h with
  | blank empty => simp [routeStatement, empty]
  | printed printing recognized =>
      rw [routeStatement_of_printing (ne_empty_of_recognizeJoin? recognized) printing]
      simp only [printCommaJoin, extractJoin, recognized]
  | notPrinted nonempty printing unrecognized =>
      rw [routeStatement_of_printing nonempty printing]
      simp only [printCommaJoin, extractJoin, unrecognized, htrim]
  | @invalidProjection query field fault suggestion running recognized invalid =>
      have hend : Simulates settings (engineScanner settings.engine engine) (trimText statement)
          ⟨.error (.fieldReference field fault suggestion), []⟩ :=
        .invalidProjection recognized invalid
      rw [routeStatement_of_running (ne_empty_of_recognizeJoin? recognized) running]
      simp only [runStatement, hend.eq_simulate, List.map_nil]
  | leftFails running recognized valid left =>
      have hleft := scanFails_engineScanner_iff.mpr ⟨_, rfl, left⟩
      have hsimulate := (Simulates.leftFails recognized valid hleft).eq_simulate
      rw [routeStatement_of_running (ne_empty_of_recognizeJoin? recognized) running]
      simp only [runStatement, hsimulate, List.map_cons, List.map_nil]
  | rightFails running recognized valid left right =>
      have hleft := scanYields_engineScanner_iff.mpr left
      have hright := scanFails_engineScanner_iff.mpr ⟨_, rfl, right⟩
      have hsimulate := (Simulates.rightFails recognized valid hleft hright).eq_simulate
      rw [routeStatement_of_running (ne_empty_of_recognizeJoin? recognized) running]
      simp only [runStatement, hsimulate, List.map_cons, List.map_nil]
  | answered running recognized valid left right =>
      have hleft := scanYields_engineScanner_iff.mpr left
      have hright := scanYields_engineScanner_iff.mpr right
      have hsimulate := (Simulates.answered recognized valid hleft hright).eq_simulate
      rw [routeStatement_of_running (ne_empty_of_recognizeJoin? recognized) running]
      simp only [runStatement, hsimulate, List.map_cons, List.map_nil]
  | forwarded nonempty running unrecognized passing answer =>
      rw [routeStatement_of_running nonempty running,
        runStatement_of_unrecognized htrim unrecognized, if_pos passing]
      simp only [forwardInput, answer, forwardOutput, List.nil_append]
  | notStarted nonempty running unrecognized passing answer =>
      rw [routeStatement_of_running nonempty running,
        runStatement_of_unrecognized htrim unrecognized, if_pos passing]
      simp only [forwardInput, answer, List.nil_append]
  | refused nonempty running unrecognized stopping =>
      rw [routeStatement_of_running nonempty running,
        runStatement_of_unrecognized htrim unrecognized, if_neg (by simp [stopping])]

/-! ## Join statements -/

theorem Simulates.scans_isPrefix {scanner : Scanner} {query : JoinQuery} {simulation : Simulation}
    (h : Simulates settings scanner statement simulation)
    (hquery : recognizeJoin? settings.columns statement = some query) :
    simulation.scans <+: [query.leftRelation, query.rightRelation] := by
  cases h with
  | notAJoin unrecognized => exact List.nil_prefix
  | invalidProjection recognized invalid => exact List.nil_prefix
  | leftFails recognized valid left =>
      rw [hquery] at recognized
      cases recognized
      exact ⟨[query.rightRelation], rfl⟩
  | rightFails recognized valid left right =>
      rw [hquery] at recognized
      cases recognized
      exact List.prefix_rfl
  | answered recognized valid left right =>
      rw [hquery] at recognized
      cases recognized
      exact List.prefix_rfl

/-- A failed scan ends the run: only a statement that is no join is handed on. -/
theorem runStatement_of_recognized (options : RouteOptions) (stamp : RunStamp) (engine : Engine)
    {query : JoinQuery}
    (hquery : recognizeJoin? settings.columns statement = some query) :
    let simulation := simulate settings (engineScanner settings.engine engine) statement
    let routed := runStatement settings options stamp engine statement
    routed.inputs = simulation.scans.map (scanInput settings.engine) ∧
      (routed.code = 0 ↔ ∃ outcome, simulation.result = .ok outcome) := by
  have hsimulates := simulates_simulate settings (engineScanner settings.engine engine) statement
  dsimp only [runStatement]
  generalize simulate settings (engineScanner settings.engine engine) statement = simulation
    at hsimulates ⊢
  cases hsimulates with
  | notAJoin unrecognized =>
      rw [hquery] at unrecognized
      cases unrecognized
  | invalidProjection recognized invalid => simp [reportFailure]
  | leftFails recognized valid left =>
      obtain ⟨fault, rfl, -⟩ := scanFails_engineScanner_iff.mp left
      simp [reportFailure]
  | rightFails recognized valid left right =>
      obtain ⟨fault, rfl, -⟩ := scanFails_engineScanner_iff.mp right
      simp [reportFailure]
  | answered recognized valid left right => simp

theorem statementInput_not_mem_of_isPrefix {columns : ColumnNames} {query : JoinQuery}
    {scans : List String} (hquery : recognizeJoin? columns statement = some query)
    (hscans : scans <+: [query.leftRelation, query.rightRelation]) (settings : EngineSettings) :
    statementInput settings statement ∉ scans.map (scanInput settings) := by
  intro hmem
  obtain ⟨relation, hrelation, heq⟩ := List.mem_map.mp hmem
  obtain ⟨hleft, hright⟩ := relations_isLexeme_of_recognizeJoin? hquery
  have hsides : relation = query.leftRelation ∨ relation = query.rightRelation := by
    simpa using hscans.subset hrelation
  rcases hsides with rfl | rfl
  · exact statementInput_ne_scanInput hquery hleft settings heq.symm
  · exact statementInput_ne_scanInput hquery hright settings heq.symm

/-- A statement comes to the end of its route and to no other.  A join statement that is run gives
the engine its scans as far as they succeed, and never the statement itself. -/
theorem routeStatement_exact (settings : Settings) (options : RouteOptions) (stamp : RunStamp)
    (engine : Engine) (statement : String) :
    (∀ routed, Routes settings options stamp engine (trimText statement) routed ↔
      routeStatement settings options stamp engine statement = routed) ∧
    ∀ query, recognizeJoin? settings.columns (trimText statement) = some query →
      options.commaJoinOnly = false →
      let routed := routeStatement settings options stamp engine statement
      routed.inputs <+: [scanInput settings.engine query.leftRelation,
        scanInput settings.engine query.rightRelation] ∧
      statementInput settings.engine (trimText statement) ∉ routed.inputs ∧
      (routed.code = 0 ↔ ∃ outcome,
        (simulate settings (engineScanner settings.engine engine) (trimText statement)).result =
          .ok outcome) := by
  constructor
  · intro routed
    constructor
    · exact Routes.routeStatement_eq
    · rintro rfl
      exact routes_routeStatement settings options stamp engine statement
  · intro query hquery hrunning routed
    have hscans := (simulates_simulate settings (engineScanner settings.engine engine)
      (trimText statement)).scans_isPrefix hquery
    obtain ⟨hinputs, hcode⟩ :=
      runStatement_of_recognized options stamp engine hquery
    have hrouted : routed = runStatement settings options stamp engine (trimText statement) :=
      routeStatement_of_running (ne_empty_of_recognizeJoin? hquery) hrunning
    rw [hrouted, hinputs]
    exact ⟨hscans.map _, statementInput_not_mem_of_isPrefix hquery hscans settings.engine, hcode⟩

/-- The left relation is a table and the scan of the right one is killed, which the statement is
not handed on for. -/
theorem routeStatement_exact_of_killed_scan :
    let engine : Engine := fun earlier _ =>
      if earlier.isEmpty then .ok ⟨"1 | x\n", "", some 0⟩ else .ok ⟨"", "", none⟩
    let routed := routeStatement {} {} ⟨"", 0⟩ engine " select *\nfrom a inner join b on c"
    recognizeJoin? {} (trimText " select *\nfrom a inner join b on c") ≠ none ∧
      routed.inputs = ["SELECT * FROM a;\nexit;\n", "SELECT * FROM b;\nexit;\n"] ∧
      "select *\nfrom a inner join b on c\nexit;\n" ∉ routed.inputs ∧
      routed.out = "SCAN_FAILURE\n" ∧ routed.code ≠ 0 := by
  intro engine routed
  have hquery : recognizeJoin? {} (trimText " select *\nfrom a inner join b on c") =
      some
        { projection := .all
          fieldsText := "*"
          leftRelation := "a"
          rightRelation := "b"
          conditionText := "c"
          keyCondition? := none } := by
    decide +kernel
  have hrouted : routed = ⟨1, "SCAN_FAILURE\n", "",
      ["SELECT * FROM a;\nexit;\n", "SELECT * FROM b;\nexit;\n"]⟩ := by
    decide +kernel
  obtain ⟨-, hnot, -⟩ := (routeStatement_exact {} {} ⟨"", 0⟩ engine
    " select *\nfrom a inner join b on c").2 _ hquery rfl
  have hinput :
      statementInput (Settings.engine {}) (trimText " select *\nfrom a inner join b on c") =
        "select *\nfrom a inner join b on c\nexit;\n" := by
    decide +kernel
  rw [hinput] at hnot
  exact ⟨by simp [hquery], by rw [hrouted], hnot, by rw [hrouted], by simp [hrouted]⟩

end KeyJoin
