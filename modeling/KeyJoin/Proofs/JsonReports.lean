import KeyJoin.Proofs.CommaJoin
import KeyJoin.Proofs.JsonWriting
import KeyJoin.Proofs.StatementRoutes

/-!
# Reports as JSON documents

When documents are asked for, an outcome and every failure are printed as one
JSON document and a line feed.  This is so on all routes but two: a comma join
is printed as the statement it is, and what an engine answers to a statement it
was handed is passed on as it came.
-/

namespace KeyJoin

variable {settings : Settings} {options : RouteOptions} {stamp : RunStamp} {engine : Engine}
  {statement text : String}

/-- An outcome, or an error with its message. -/
inductive IsReportValue : JsonValue → Prop
  | outcome (stamp : RunStamp) (outcome : Outcome) :
      IsReportValue (outcomeDocument stamp outcome)
  | error (indicator message : String) :
      IsReportValue (.object [("error", .string indicator), ("message", .string message)])

/-- The text is one document, which is a report, and a line feed. -/
def IsReport (text : String) : Prop :=
  ∃ document value, text = document ++ "\n" ∧ readJson? document.toList = some value ∧
    IsReportValue value

theorem isPlain_outputDocument (output : Output) : (outputDocument output).IsPlain := by
  cases output with
  | noRows =>
      refine .object fun field hfield => ?_
      obtain rfl := List.mem_singleton.mp hfield
      exact .string _
  | rows lines =>
      refine .object fun field hfield => ?_
      simp only [List.mem_cons, List.not_mem_nil, or_false] at hfield
      rcases hfield with rfl | rfl
      · exact .string _
      · refine .array fun item hitem => ?_
        obtain ⟨line, -, rfl⟩ := List.mem_map.mp hitem
        exact .string line

theorem isPlain_outcomeDocument (stamp : RunStamp) (outcome : Outcome) :
    (outcomeDocument stamp outcome).IsPlain := by
  refine .object fun field hfield => ?_
  simp only [List.mem_cons, List.not_mem_nil, or_false] at hfield
  rcases hfield with rfl | rfl | rfl | rfl | rfl | rfl | rfl | rfl | rfl | rfl
  case inr.inr.inr.inr.inr.inr.inr.inr.inl => exact isPlain_outputDocument outcome.output
  all_goals constructor

theorem IsReportValue.isPlain {value : JsonValue} (h : IsReportValue value) : value.IsPlain := by
  cases h with
  | outcome stamp outcome => exact isPlain_outcomeDocument stamp outcome
  | error indicator message =>
      refine .object fun field hfield => ?_
      simp only [List.mem_cons, List.not_mem_nil, or_false] at hfield
      rcases hfield with rfl | rfl
      all_goals exact .string _

theorem IsReportValue.isReport {value : JsonValue} (h : IsReportValue value) :
    IsReport (value.write ++ "\n") :=
  ⟨value.write, value, rfl, readJson?_write h.isPlain, h⟩

theorem isReport_failureText (hjson : options.json = true) (failure : Failure) :
    IsReport (failureText options failure) := by
  rw [failureText, if_pos hjson]
  exact (IsReportValue.error failure.indicator failure.message).isReport

theorem isReport_outcomeText (hjson : options.json = true) (settings : Settings)
    (stamp : RunStamp) (outcome : Outcome) :
    IsReport (outcomeText settings options stamp outcome) := by
  rw [outcomeText, if_pos hjson]
  exact (IsReportValue.outcome stamp outcome).isReport

/-! ## Texts that are no reports -/

theorem IsReport.readJson?_dropLast (h : IsReport text) :
    ∃ value, readJson? text.toList.dropLast = some value ∧ IsReportValue value := by
  obtain ⟨document, value, rfl, hread, hvalue⟩ := h
  refine ⟨value, ?_, hvalue⟩
  simpa using hread

/-- No value begins with the letter that every comma join begins with. -/
theorem readJson?_commaJoin (query : JoinQuery) : readJson? query.commaJoin.toList = none := by
  rw [query.commaJoin_toList]
  simp [Keyword.letters, readJson?, readValue, skipJsonBlanks, isJsonBlank, readNumber, readMinus,
    readIntegerPart, readDigits]

theorem not_isReport_commaJoin (query : JoinQuery) : ¬ IsReport (query.commaJoin ++ "\n") := by
  intro h
  obtain ⟨value, hread, -⟩ := h.readJson?_dropLast
  have hdrop : (query.commaJoin ++ "\n").toList.dropLast = query.commaJoin.toList := by simp
  rw [hdrop, readJson?_commaJoin] at hread
  cases hread

/-! ## Routes -/

/-- The engine is handed the trimmed statement and gives this output. -/
structure AnswersStatement (settings : Settings) (options : RouteOptions) (engine : Engine)
    (statement : String) (output : EngineOutput) : Prop where
  nonempty : statement ≠ ""
  running : options.commaJoinOnly = false
  unrecognized : recognizeJoin? settings.columns statement = none
  passing : options.passthrough = true
  answer : engine [] (statementInput settings.engine statement) = .ok output

theorem AnswersStatement.routes {output : EngineOutput}
    (h : AnswersStatement settings options engine statement output) (stamp : RunStamp) :
    Routes settings options stamp engine statement
      ⟨output.status?.getD 1, output.out, output.err, [statementInput settings.engine statement]⟩ :=
  .forwarded h.nonempty h.running h.unrecognized h.passing h.answer

/-- On the routes that print no SQL and pass nothing on, a report is printed. -/
theorem Routes.isReport {routed : Routed}
    (h : Routes settings options stamp engine statement routed) (hjson : options.json = true)
    (hprinted : options.commaJoinOnly = true → recognizeJoin? settings.columns statement = none)
    (hpassed : ∀ output, ¬ AnswersStatement settings options engine statement output) :
    IsReport routed.out := by
  cases h with
  | printed printing recognized =>
      rw [hprinted printing] at recognized
      cases recognized
  | forwarded nonempty running unrecognized passing answer =>
      exact absurd ⟨nonempty, running, unrecognized, passing, answer⟩ (hpassed _)
  | answered running recognized valid left right => exact isReport_outcomeText hjson _ _ _
  | _ => exact isReport_failureText hjson _

/-- When documents are asked for and no comma join is printed, a statement is answered with a
report, except that the text of an engine that answers it is passed on. -/
theorem isReport_routeStatement (settings : Settings) (options : RouteOptions) (stamp : RunStamp)
    (engine : Engine) (statement : String) (hjson : options.json = true)
    (hprinted : options.commaJoinOnly = true →
      recognizeJoin? settings.columns (trimText statement) = none) :
    let routed := routeStatement settings options stamp engine statement
    (∀ output, AnswersStatement settings options engine (trimText statement) output →
      routed.out = output.out) ∧
    ((∀ output, ¬ AnswersStatement settings options engine (trimText statement) output) →
      IsReport routed.out) := by
  intro routed
  constructor
  · intro output hanswers
    have hrouted := (hanswers.routes stamp).routeStatement_eq
    exact congrArg Routed.out hrouted
  · intro hpassed
    have hroutes := routes_routeStatement settings options stamp engine statement
    exact hroutes.isReport hjson hprinted hpassed

/-- The engine cannot be started, and there is no comma join to print for the statement. -/
theorem isReport_routeStatement_of_unstarted :
    let engine : Engine := fun _ _ => .error .notFound
    let routed := routeStatement {} ⟨true, true, false⟩ ⟨"", 0⟩ engine "SELECT 1"
    let unprinted := routeStatement {} ⟨true, true, true⟩ ⟨"", 0⟩ engine "SELECT 1"
    recognizeJoin? {} (trimText "SELECT 1") = none ∧
      routed.inputs = ["SELECT 1\nexit;\n"] ∧ IsReport routed.out ∧
      unprinted.inputs = [] ∧ IsReport unprinted.out := by
  intro engine routed unprinted
  have hnone : recognizeJoin? {} (trimText "SELECT 1") = none := by
    decide +kernel
  refine ⟨hnone, by decide +kernel, ?_, by decide +kernel, ?_⟩
  · refine (isReport_routeStatement {} ⟨true, true, false⟩ ⟨"", 0⟩ engine "SELECT 1" rfl
      fun _ => hnone).2 fun output hanswers => ?_
    cases hanswers.answer
  · refine (isReport_routeStatement {} ⟨true, true, true⟩ ⟨"", 0⟩ engine "SELECT 1" rfl
      fun _ => hnone).2 fun output hanswers => ?_
    cases hanswers.running

/-- The text of an engine that prints what it reads is no report, and neither is a comma join. -/
theorem routeStatement_prints_no_report :
    let engine : Engine := fun _ input => .ok ⟨input, "", some 0⟩
    ¬ IsReport (routeStatement {} ⟨true, true, false⟩ ⟨"", 0⟩ engine "SELECT 1").out ∧
    ¬ IsReport (routeStatement {} ⟨true, true, true⟩ ⟨"", 0⟩ engine
      "SELECT * FROM a INNER JOIN b ON c").out := by
  intro engine
  constructor
  · intro h
    obtain ⟨value, hread, -⟩ := h.readJson?_dropLast
    have hnone : readJson? (routeStatement {} ⟨true, true, false⟩ ⟨"", 0⟩ engine
        "SELECT 1").out.toList.dropLast = none := by
      decide +kernel
    rw [hnone] at hread
    cases hread
  · obtain ⟨query, hquery⟩ : ∃ query,
        recognizeJoin? {} (trimText "SELECT * FROM a INNER JOIN b ON c") = some query := by
      rw [← Option.isSome_iff_exists]
      decide +kernel
    have hprinted : Routes {} ⟨true, true, true⟩ ⟨"", 0⟩ engine
        (trimText "SELECT * FROM a INNER JOIN b ON c") ⟨0, query.commaJoin ++ "\n", "", []⟩ :=
      .printed rfl hquery
    rw [hprinted.routeStatement_eq]
    exact not_isReport_commaJoin query

end KeyJoin
