import KeyJoin.Proofs.JsonReports
import KeyJoin.Proofs.SameQuestion
import KeyJoin.Proofs.ScriptLines

/-!
# Comma joins of statements and of scripts

A comma join is printed for a statement of its own or written for the line of a
script.  The one way trims the statement and refuses it if nothing is left; the
other way divides a text into lines, trims each of them, and keeps blank lines
and comments unread.  On a text of one line the two ways print the same, and
they recognize the joins that a run does not refuse.
-/

namespace KeyJoin

variable {settings : Settings} {options : RouteOptions} {stamp : RunStamp} {engine : Engine}
  {statement : String} {routed : Routed}

/-! ## Reports that a statement is no join -/

/-- The exit code and the text of a failure that says a statement is no join. -/
def Routed.ReportsNoJoin (routed : Routed) (options : RouteOptions) : Prop :=
  routed.code = 1 ∧ ∃ query, routed.out = failureText options (.notAJoin query)

theorem failureDocument_isPlain (failure : Failure) : (failureDocument failure).IsPlain :=
  (IsReportValue.error failure.indicator failure.message).isPlain

/-- The text that is printed for a failure tells its indicator, as a document or alone. -/
theorem indicator_eq_of_failureText_eq {failure other : Failure}
    (h : failureText options failure = failureText options other) :
    failure.indicator = other.indicator := by
  unfold failureText at h
  split at h
  · have hwritten : (failureDocument failure).write = (failureDocument other).write := by
      simpa using h
    have hread := readJson?_write (failureDocument_isPlain failure)
    rw [hwritten, readJson?_write (failureDocument_isPlain other)] at hread
    have hdocuments : failureDocument failure = failureDocument other :=
      (Option.some.inj hread).symm
    simp only [failureDocument, JsonValue.object.injEq, List.cons.injEq, Prod.mk.injEq,
      JsonValue.string.injEq] at hdocuments
    exact hdocuments.1.2
  · simpa using h

theorem not_reportsNoJoin_of_indicator {failure : Failure} {inputs : List String}
    (h : failure.indicator ≠ "NOT_A_JOIN_QUERY") :
    ¬ (reportFailure options failure inputs).ReportsNoJoin options := by
  rintro ⟨-, query, hout⟩
  exact h (indicator_eq_of_failureText_eq hout)

theorem reportsNoJoin_reportFailure (query : String) (inputs : List String) :
    (reportFailure options (.notAJoin query) inputs).ReportsNoJoin options :=
  ⟨rfl, query, rfl⟩

theorem Routes.reportsNoJoin_iff
    (h : Routes settings options stamp engine statement routed)
    (hrunning : options.commaJoinOnly = false) (hstopping : options.passthrough = false) :
    routed.ReportsNoJoin options ↔ recognizeJoin? settings.columns statement = none := by
  cases h with
  | blank empty =>
      subst empty
      exact iff_of_true (reportsNoJoin_reportFailure _ _) (recognizeJoin?_nil _)
  | printed printing recognized =>
      rw [hrunning] at printing
      cases printing
  | notPrinted nonempty printing unrecognized =>
      exact iff_of_true (reportsNoJoin_reportFailure _ _) unrecognized
  | invalidProjection running recognized invalid =>
      exact iff_of_false (not_reportsNoJoin_of_indicator (by simp [Failure.indicator]))
        (by simp [recognized])
  | leftFails running recognized valid left =>
      exact iff_of_false (not_reportsNoJoin_of_indicator (by simp [Failure.indicator]))
        (by simp [recognized])
  | rightFails running recognized valid left right =>
      exact iff_of_false (not_reportsNoJoin_of_indicator (by simp [Failure.indicator]))
        (by simp [recognized])
  | answered running recognized valid left right =>
      refine iff_of_false (fun hreports => ?_) (by simp [recognized])
      exact absurd hreports.1 (by simp)
  | forwarded nonempty running unrecognized passing answer =>
      rw [hstopping] at passing
      cases passing
  | notStarted nonempty running unrecognized passing answer =>
      rw [hstopping] at passing
      cases passing
  | refused nonempty running unrecognized stopping =>
      exact iff_of_true (reportsNoJoin_reportFailure _ _) unrecognized

theorem code_routeStatement_of_printing (hprinting : options.commaJoinOnly = true) :
    (routeStatement settings options stamp engine statement).code = 0 ↔
      (recognizeJoin? settings.columns statement).isSome = true := by
  cases hquery : recognizeJoin? settings.columns statement with
  | some query =>
      rw [routeStatement_of_commaJoinOnly hquery hprinting]
      exact iff_of_true rfl rfl
  | none =>
      refine iff_of_false ?_ (by simp)
      by_cases hempty : trimText statement = ""
      · rw [(Routes.blank hempty).routeStatement_eq]
        simp [reportFailure]
      · have htrimmed := recognizeJoin?_trimText_eq_none_iff.mpr hquery
        rw [(Routes.notPrinted hempty hprinting htrimmed).routeStatement_eq]
        simp [reportFailure]

/-! ## Scripts of one line -/

theorem commaJoinScript_of_feed_not_mem (columns : ColumnNames)
    (hfeed : '\n' ∉ statement.toList) (hne : statement ≠ "") :
    commaJoinScript columns statement =
      String.ofList (commaJoinLine columns statement.toList) ++ "\n" := by
  have hlines := lines_of_feed_not_mem hfeed (by simpa using hne)
  rw [commaJoinScript_eq, hlines]
  simp [endLines, String.ofList_append]

/-- One way or the other, the text of one line is recognized alike and the same comma join is
printed for it; as a script it is otherwise written as it is, trimmed and ended. -/
theorem printed_commaJoins_agree (settings : Settings) (statement : String)
    (hfeed : '\n' ∉ statement.toList) :
    (∀ (options : RouteOptions) (stamp : RunStamp) (engine : Engine),
      options.commaJoinOnly = true →
      let routed := routeStatement settings options stamp engine statement
      (routed.code = 0 ↔ (recognizeJoin? settings.columns statement).isSome = true) ∧
      ((recognizeJoin? settings.columns statement).isSome = true →
        routed.out = commaJoinScript settings.columns statement)) ∧
    (∀ (options : RouteOptions) (stamp : RunStamp) (engine : Engine),
      options.commaJoinOnly = false → options.passthrough = false →
      ((recognizeJoin? settings.columns statement).isSome = true ↔
        ¬ (routeStatement settings options stamp engine statement).ReportsNoJoin options)) ∧
    (recognizeJoin? settings.columns statement = none →
      commaJoinScript settings.columns statement =
        if statement = "" then "" else trimText statement ++ "\n") := by
  refine ⟨fun options stamp engine hprinting => ⟨?_, fun hsome => ?_⟩,
    fun options stamp engine hrunning hstopping => ?_, fun hnone => ?_⟩
  · exact code_routeStatement_of_printing hprinting
  · obtain ⟨query, hquery⟩ := Option.isSome_iff_exists.mp hsome
    have hline : commaJoinLine settings.columns statement.toList = query.commaJoin.toList :=
      commaJoinLine_of_recognized (by rwa [String.ofList_toList])
    rw [routeStatement_of_commaJoinOnly hquery hprinting,
      commaJoinScript_of_feed_not_mem _ hfeed (ne_empty_of_recognizeJoin? hquery), hline,
      String.ofList_toList]
  · have hroutes := routes_routeStatement settings options stamp engine statement
    rw [hroutes.reportsNoJoin_iff hrunning hstopping, recognizeJoin?_trimText,
      ← Option.ne_none_iff_isSome]
  · by_cases hempty : statement = ""
    · subst hempty
      rfl
    · have hline : commaJoinLine settings.columns statement.toList = trim statement.toList :=
        commaJoinLine_of_unrecognized (by rwa [String.ofList_toList])
      rw [if_neg hempty, commaJoinScript_of_feed_not_mem _ hfeed hempty, hline]
      rfl

/-- A join between wide spaces that ends in a carriage return, and one that is made a comment. -/
theorem printed_commaJoins_agree_of_margins :
    let printed := routeStatement {} { commaJoinOnly := true } ⟨"", 0⟩
      (fun _ _ => .error .notFound) "\u3000select * from a inner join b on c\u2003\r"
    (printed.code = 0 ∧
      printed.out = commaJoinScript {} "\u3000select * from a inner join b on c\u2003\r") ∧
    (routeStatement {} { passthrough := false } ⟨"", 0⟩ (fun _ _ => .error .notFound)
      "-- select * from a inner join b on c\r").ReportsNoJoin { passthrough := false } ∧
    commaJoinScript {} "-- select * from a inner join b on c\r" =
      "-- select * from a inner join b on c\n" := by
  intro printed
  have hsome : (recognizeJoin? {} "\u3000select * from a inner join b on c\u2003\r").isSome =
      true := by
    decide +kernel
  have hnone : recognizeJoin? {} "-- select * from a inner join b on c\r" = none := by
    decide +kernel
  obtain ⟨hprinted, -, -⟩ := printed_commaJoins_agree {}
    "\u3000select * from a inner join b on c\u2003\r" (by decide +kernel)
  obtain ⟨hcode, hout⟩ := hprinted { commaJoinOnly := true } ⟨"", 0⟩ (fun _ _ => .error .notFound)
    rfl
  obtain ⟨-, hreports, hkept⟩ := printed_commaJoins_agree {}
    "-- select * from a inner join b on c\r" (by decide +kernel)
  have hreported := hreports { passthrough := false } ⟨"", 0⟩ (fun _ _ => .error .notFound) rfl rfl
  refine ⟨⟨hcode.mpr hsome, hout hsome⟩, ?_, ?_⟩
  · by_contra hnot
    have hcomment := hreported.mpr hnot
    rw [hnone] at hcomment
    cases hcomment
  · rw [hkept hnone]
    decide +kernel

end KeyJoin
