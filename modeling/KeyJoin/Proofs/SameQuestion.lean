import KeyJoin.Proofs.CommandWords
import KeyJoin.Proofs.FurtherSelects

/-!
# Statements that ask the same

Two join statements ask the same when their select lists have the same tokens
and they join the same relations.  They are simulated alike: the same fault of
the same field, the same failed scan or the same outcome, up to the condition
that an outcome repeats as it was written.  They are routed alike as well, and
where the comma join is printed, it has the same tokens.
-/

namespace KeyJoin

variable {columns : ColumnNames} {settings : Settings} {first second : String}
  {query other : JoinQuery}

structure JoinQuery.AsksSame (query other : JoinQuery) : Prop where
  fields : kindsOf query.fieldsText.toList = kindsOf other.fieldsText.toList
  left : query.leftRelation = other.leftRelation
  right : query.rightRelation = other.rightRelation

def Outcome.withoutCondition (outcome : Outcome) : Outcome :=
  { outcome with condition := "" }

def Simulation.withoutCondition (simulation : Simulation) : Simulation :=
  ⟨simulation.result.map Outcome.withoutCondition, simulation.scans⟩

/-! ## Projections -/

theorem JoinQuery.AsksSame.projection_eq (h : query.AsksSame other)
    (hfirst : recognizeJoin? columns first = some query)
    (hsecond : recognizeJoin? columns second = some other) :
    query.projection = other.projection := by
  rw [projection_of_recognizeJoin? hfirst, projection_of_recognizeJoin? hsecond, h.left, h.right]
  exact JoinScope.projection_congr _ h.fields

/-- The kinds of the tokens decide that a statement is a join, and what it asks. -/
theorem exists_asksSame_of_kindsOf_eq (hfirst : recognizeJoin? columns first = some query)
    (hkinds : kindsOf second.toList = kindsOf first.toList) :
    ∃ other, recognizeJoin? columns second = some other ∧ query.AsksSame other := by
  obtain ⟨index, hcut⟩ := exists_cutFrom_of_recognizeJoin? hfirst
  have hstatement := hcut.isStatement
  rw [← hkinds] at hstatement
  obtain ⟨other, hsecond, hcut', hleft, hright⟩ := hstatement.exists_cutFrom columns
  rw [hkinds] at hcut'
  exact ⟨other, hsecond, hcut.fields.trans hcut'.fields.symm, String.toList_inj.mp hleft.symm,
    String.toList_inj.mp hright.symm⟩

/-! ## Simulations -/

theorem JoinQuery.withoutCondition_answer (hprojection : query.projection = other.projection)
    (h : query.AsksSame other) (left right : List Row) :
    (query.answer left right).withoutCondition = (other.answer left right).withoutCondition := by
  simp only [JoinQuery.answer, Outcome.withoutCondition, hprojection, h.left, h.right]

/-- Statements that ask the same come to the same end. -/
theorem JoinQuery.AsksSame.simulate_eq (h : query.AsksSame other)
    (hfirst : recognizeJoin? settings.columns first = some query)
    (hsecond : recognizeJoin? settings.columns second = some other) (scanner : Scanner) :
    (simulate settings scanner first).withoutCondition =
      (simulate settings scanner second).withoutCondition := by
  have hprojection := h.projection_eq hfirst hsecond
  exact mapOutcome_simulate_eq hfirst hsecond (by rw [hprojection]) h.left h.right
    fun leftRows rightRows _ _ => withoutCondition_answer hprojection h leftRows rightRows

/-! ## Routes -/

variable {options : RouteOptions} {engine : Engine}

theorem outcomeText_of_not_json (hjson : options.json = false) (stamp : RunStamp)
    (outcome : Outcome) :
    outcomeText settings options stamp outcome =
      outcome.output.render settings.noRowsIndicator ++ "\n" := by
  simp only [outcomeText, hjson, Bool.false_eq_true, if_false]

theorem JoinQuery.AsksSame.routeStatement_eq (h : query.AsksSame other)
    (hfirst : recognizeJoin? settings.columns first = some query)
    (hsecond : recognizeJoin? settings.columns second = some other)
    (hjson : options.json = false) (hrunning : options.commaJoinOnly = false)
    (stamp stamp' : RunStamp) (engine : Engine) :
    routeStatement settings options stamp engine first =
      routeStatement settings options stamp' engine second := by
  have hprojection := h.projection_eq hfirst hsecond
  have htrimmed := hsecond
  rw [← recognizeJoin?_trimText] at hfirst htrimmed
  have hroute := routes_routeStatement settings options stamp engine first
  generalize routeStatement settings options stamp engine first = routed at hroute ⊢
  symm
  cases hroute with
  | blank empty => exact absurd empty (ne_empty_of_recognizeJoin? hfirst)
  | printed printing recognized =>
      rw [hrunning] at printing
      cases printing
  | notPrinted nonempty printing unrecognized =>
      rw [hrunning] at printing
      cases printing
  | invalidProjection running recognized invalid =>
      obtain rfl := Option.some.inj (hfirst.symm.trans recognized)
      rw [hprojection] at invalid
      exact (Routes.invalidProjection running htrimmed invalid).routeStatement_eq
  | leftFails running recognized valid left =>
      obtain rfl := Option.some.inj (hfirst.symm.trans recognized)
      rw [hprojection] at valid
      rw [h.left] at left ⊢
      exact (Routes.leftFails running htrimmed valid left).routeStatement_eq
  | rightFails running recognized valid left right =>
      obtain rfl := Option.some.inj (hfirst.symm.trans recognized)
      rw [hprojection] at valid
      rw [h.left] at left right ⊢
      rw [h.right] at right ⊢
      exact (Routes.rightFails running htrimmed valid left right).routeStatement_eq
  | answered running recognized valid left right =>
      obtain rfl := Option.some.inj (hfirst.symm.trans recognized)
      rw [h.left] at left right ⊢
      rw [h.right] at right ⊢
      rw [hprojection] at valid
      rw [(Routes.answered running htrimmed valid left right).routeStatement_eq,
        outcomeText_of_not_json hjson, outcomeText_of_not_json hjson]
      simp only [JoinQuery.answer, hprojection]
  | forwarded nonempty running unrecognized passing answer =>
      rw [hfirst] at unrecognized
      cases unrecognized
  | notStarted nonempty running unrecognized passing answer =>
      rw [hfirst] at unrecognized
      cases unrecognized
  | refused nonempty running unrecognized stopping =>
      rw [hfirst] at unrecognized
      cases unrecognized

theorem routeStatement_of_commaJoinOnly
    (hquery : recognizeJoin? settings.columns first = some query)
    (hprinting : options.commaJoinOnly = true) (stamp : RunStamp) (engine : Engine) :
    routeStatement settings options stamp engine first =
      ⟨0, query.commaJoin ++ "\n", "", []⟩ := by
  rw [← recognizeJoin?_trimText] at hquery
  exact (Routes.printed hprinting hquery).routeStatement_eq

theorem JoinQuery.AsksSame.kindsOf_commaJoin_eq (h : query.AsksSame other)
    (hfirst : recognizeJoin? columns first = some query)
    (hsecond : recognizeJoin? columns second = some other) :
    kindsOf query.commaJoin.toList = kindsOf other.commaJoin.toList := by
  obtain ⟨hleft, hright⟩ := relations_isLexeme_of_recognizeJoin? hfirst
  obtain ⟨hleft', hright'⟩ := relations_isLexeme_of_recognizeJoin? hsecond
  rw [query.kindsOf_commaJoin hleft hright, other.kindsOf_commaJoin hleft' hright', h.fields,
    h.left, h.right]

/-! ## Words of the command line -/

theorem wordsOfText_ne_nil (h : recognizeJoin? columns first = some query) :
    wordsOfText first ≠ [] := by
  intro hnil
  obtain ⟨index, hcut⟩ := exists_cutFrom_of_recognizeJoin? h
  have hlength := hcut.isStatement.length_le
  rw [← kindsOf_intercalate_wordsOfText, hnil] at hlength
  cases hlength

/-- The words of a join statement, put together again, ask the same. -/
theorem exists_recognizeJoin?_wordsOfText (h : recognizeJoin? columns first = some query) :
    ∃ other, recognizeJoin? columns (String.intercalate " " (wordsOfText first)) = some other ∧
      query.AsksSame other :=
  exists_asksSame_of_kindsOf_eq h (kindsOf_intercalate_wordsOfText first)

theorem exists_recognizeJoin?_of_columns (h : recognizeJoin? columns first = some query)
    (columns' : ColumnNames) : ∃ other, recognizeJoin? columns' first = some other := by
  rw [← Option.isSome_iff_exists, recognizeJoin?_isSome_iff, ← recognizeJoin?_isSome_iff columns, h]
  rfl

theorem runCommand_wordsOfText {system : CommandSystem} {call : CommandCall}
    {options : CommandOptions} {arguments : List String}
    (h : recognizeJoin? columns first = some query) (hasks : call.Asks system options first)
    (hrequest : commandRequest arguments = .run (options.addWords (wordsOfText first)))
    (standardInput : Bytes) :
    runCommand system (call.withQuery arguments standardInput) = runCommand system call := by
  refine runCommand_withQuery hasks (wordsOfText_ne_nil h) hrequest
    (fun settings engine => ?_) standardInput
  obtain ⟨query', hquery'⟩ := exists_recognizeJoin?_of_columns h settings.columns
  obtain ⟨other, hother, hsame⟩ := exists_recognizeJoin?_wordsOfText hquery'
  exact (hsame.routeStatement_eq hquery' hother hasks.plain hasks.running call.stamp call.stamp
    engine).symm

/-- What is answered to a join statement depends on the tokens of its select list and on its two
relations.  Only a printed comma join repeats the select list as it was written; and of the words
of a statement on the command line those that look like options must stand behind a double dash. -/
theorem asksSame_answers_alike (settings : Settings) (first : String) (query : JoinQuery)
    (hfirst : recognizeJoin? settings.columns first = some query) :
    (∀ second other, recognizeJoin? settings.columns second = some other →
      query.AsksSame other →
      (∀ scanner, (simulate settings scanner first).withoutCondition =
        (simulate settings scanner second).withoutCondition) ∧
      ∀ (options : RouteOptions) (stamp stamp' : RunStamp) (engine : Engine),
        options.json = false →
        (options.commaJoinOnly = false →
          routeStatement settings options stamp engine first =
            routeStatement settings options stamp' engine second) ∧
        (options.commaJoinOnly = true →
          routeStatement settings options stamp engine first =
            ⟨0, query.commaJoin ++ "\n", "", []⟩ ∧
          routeStatement settings options stamp' engine second =
            ⟨0, other.commaJoin ++ "\n", "", []⟩ ∧
          kindsOf query.commaJoin.toList = kindsOf other.commaJoin.toList ∧
          (query.fieldsText = other.fieldsText → query.commaJoin = other.commaJoin))) ∧
    (∀ second, kindsOf second.toList = kindsOf first.toList →
      ∃ other, recognizeJoin? settings.columns second = some other ∧ query.AsksSame other) ∧
    ∀ (system : CommandSystem) (call : CommandCall) (options : CommandOptions),
      call.Asks system options first →
      (∀ arguments standardInput,
        commandRequest arguments = .run (options.addWords (wordsOfText first)) →
        runCommand system (call.withQuery arguments standardInput) = runCommand system call) ∧
      ("--" ∉ call.arguments →
        commandRequest (call.arguments ++ "--" :: wordsOfText first) =
          .run (options.addWords (wordsOfText first)) ∧
        ((∀ word ∈ wordsOfText first, isWord word = true) →
          commandRequest (call.arguments ++ wordsOfText first) =
            .run (options.addWords (wordsOfText first)))) := by
  refine ⟨fun second other hsecond hsame => ⟨fun scanner => ?_, ?_⟩, fun second hkinds => ?_,
    fun system call options hasks =>
      ⟨fun arguments standardInput hrequest => ?_, fun hdash => ⟨?_, ?_⟩⟩⟩
  · exact hsame.simulate_eq hfirst hsecond scanner
  · intro options stamp stamp' engine hjson
    constructor
    · intro hrunning
      exact hsame.routeStatement_eq hfirst hsecond hjson hrunning stamp stamp' engine
    · intro hprinting
      refine ⟨routeStatement_of_commaJoinOnly hfirst hprinting stamp engine,
        routeStatement_of_commaJoinOnly hsecond hprinting stamp' engine,
        hsame.kindsOf_commaJoin_eq hfirst hsecond, fun hfields => ?_⟩
      simp only [JoinQuery.commaJoin, hfields, hsame.left, hsame.right]
  · exact exists_asksSame_of_kindsOf_eq hfirst hkinds
  · exact runCommand_wordsOfText hfirst hasks hrequest standardInput
  · rw [commandRequest, readArguments_append hasks.request hdash, readArguments_doubleDash]
  · intro hwords
    rw [commandRequest, readArguments_append hasks.request hdash, readArguments_of_isWord _ hwords]

/-- White space around the dots and in place of the line, keywords in small letters, another
condition and a semicolon change neither the lines nor the scans, and neither do the words of the
statement on the command line. -/
theorem asksSame_answers_alike_of_layout :
    (∃ query other : JoinQuery,
      recognizeJoin? {} "SELECT a.name,b.age FROM a INNER JOIN b ON a.id=b.id" = some query ∧
      recognizeJoin? {} "select\n a . name , b.age\tfrom a Inner join\u3000b on 1 ;" = some other ∧
      query.AsksSame other) ∧
    (∀ scanner,
      (simulate {} scanner
          "SELECT a.name,b.age FROM a INNER JOIN b ON a.id=b.id").withoutCondition =
        (simulate {} scanner
          "select\n a . name , b.age\tfrom a Inner join\u3000b on 1 ;").withoutCondition) ∧
    (routeStatement {} {} ⟨"first", 3⟩ (fun _ _ => .ok ⟨"1 | x\n", "", some 0⟩)
        "SELECT a.name,b.age FROM a INNER JOIN b ON a.id=b.id" =
      routeStatement {} {} ⟨"second", 5⟩ (fun _ _ => .ok ⟨"1 | x\n", "", some 0⟩)
        "select\n a . name , b.age\tfrom a Inner join\u3000b on 1 ;") ∧
    (∃ query, recognizeJoin? {} "SELECT a.name,b.age\r\nFROM a INNER JOIN b ON a . id = b.id" =
      some query) ∧
    (∀ standardInput,
      runCommand
          ⟨fun input _ => (.error .notFound, input), fun _ _ _ _ => .ok ⟨"1 | x\n", "", some 0⟩,
            plainDocumentFault⟩
          ⟨["--no-passthrough", "--", "SELECT", "a.name,b.age", "FROM", "a", "INNER", "JOIN", "b",
            "ON", "a.id=b.id"], standardInput, [], ⟨"", 0⟩⟩ =
        runCommand
          ⟨fun input _ => (.error .notFound, input), fun _ _ _ _ => .ok ⟨"1 | x\n", "", some 0⟩,
            plainDocumentFault⟩
          ⟨["--no-passthrough"],
            encodeText "SELECT a.name,b.age FROM a INNER JOIN b ON a.id=b.id".toList, [],
            ⟨"", 0⟩⟩) := by
  have hfirst : recognizeJoin? {} "SELECT a.name,b.age FROM a INNER JOIN b ON a.id=b.id" =
      some
        { projection := .several [⟨"a", "name", .left, 1⟩, ⟨"b", "age", .right, 1⟩]
          fieldsText := "a.name,b.age"
          leftRelation := "a"
          rightRelation := "b"
          conditionText := "a.id=b.id"
          keyCondition? := some ⟨⟨some "a", "id"⟩, ⟨some "b", "id"⟩⟩ } := by
    decide +kernel
  have hsecond : recognizeJoin? {}
      "select\n a . name , b.age\tfrom a Inner join\u3000b on 1 ;" =
      some
        { projection := .several [⟨"a", "name", .left, 1⟩, ⟨"b", "age", .right, 1⟩]
          fieldsText := "a . name , b.age"
          leftRelation := "a"
          rightRelation := "b"
          conditionText := "1"
          keyCondition? := none } := by
    decide +kernel
  obtain ⟨hsame, hkinds, hcommand⟩ := asksSame_answers_alike {} _ _ hfirst
  obtain ⟨hscans, hroutes⟩ := hsame _ _ hsecond ⟨by decide +kernel, rfl, rfl⟩
  obtain ⟨third, hthird, -⟩ :=
    hkinds "SELECT a.name,b.age\r\nFROM a INNER JOIN b ON a . id = b.id" (by decide +kernel)
  have hasks : CommandCall.Asks
      ⟨["--no-passthrough"],
        encodeText "SELECT a.name,b.age FROM a INNER JOIN b ON a.id=b.id".toList, [], ⟨"", 0⟩⟩
      ⟨fun input _ => (.error .notFound, input), fun _ _ _ _ => .ok ⟨"1 | x\n", "", some 0⟩,
        plainDocumentFault⟩
      { noPassthrough := true } "SELECT a.name,b.age FROM a INNER JOIN b ON a.id=b.id" :=
    ⟨by decide, rfl, rfl, rfl, rfl, by decide +kernel, fun _ _ => rfl, by simp⟩
  obtain ⟨hanswer, hrequest⟩ := hcommand _ _ _ hasks
  refine ⟨⟨_, _, hfirst, hsecond, by decide +kernel, rfl, rfl⟩, hscans, ?_, ⟨third, hthird⟩,
    fun standardInput => ?_⟩
  · exact (hroutes {} ⟨"first", 3⟩ ⟨"second", 5⟩ _ rfl).1 rfl
  · exact hanswer _ standardInput (hrequest (by decide)).1

/-- A printed comma join repeats the select list as it was written, and a condition that begins
like an option is a misuse of the command. -/
theorem asksSame_answers_differ :
    ¬ ((∀ (settings : Settings) (first second : String) (query other : JoinQuery),
        recognizeJoin? settings.columns first = some query →
        recognizeJoin? settings.columns second = some other → query.AsksSame other →
        ∀ (options : RouteOptions) (stamp : RunStamp) (engine : Engine), options.json = false →
          routeStatement settings options stamp engine first =
            routeStatement settings options stamp engine second) ∨
      ∀ (columns : ColumnNames) (statement : String),
        (recognizeJoin? columns statement).isSome = true →
          commandRequest (wordsOfText statement) = .run { words := wordsOfText statement }) := by
  rintro (hroutes | hrequests)
  · have hfirst : recognizeJoin? {} "SELECT a.name , b.age FROM a INNER JOIN b ON a.id = b.id" =
        some
          { projection := .several [⟨"a", "name", .left, 1⟩, ⟨"b", "age", .right, 1⟩]
            fieldsText := "a.name , b.age"
            leftRelation := "a"
            rightRelation := "b"
            conditionText := "a.id = b.id"
            keyCondition? := some ⟨⟨some "a", "id"⟩, ⟨some "b", "id"⟩⟩ } := by
      decide +kernel
    have hsecond : recognizeJoin? {} "SELECT a.name, b.age FROM a INNER JOIN b ON a.id = b.id" =
        some
          { projection := .several [⟨"a", "name", .left, 1⟩, ⟨"b", "age", .right, 1⟩]
            fieldsText := "a.name, b.age"
            leftRelation := "a"
            rightRelation := "b"
            conditionText := "a.id = b.id"
            keyCondition? := some ⟨⟨some "a", "id"⟩, ⟨some "b", "id"⟩⟩ } := by
      decide +kernel
    have hprinted := hroutes {} _ _ _ _ hfirst hsecond ⟨by decide +kernel, rfl, rfl⟩
      { commaJoinOnly := true } ⟨"", 0⟩ (fun _ _ => .ok ⟨"", "", some 0⟩) rfl
    rw [routeStatement_of_commaJoinOnly hfirst rfl, routeStatement_of_commaJoinOnly hsecond rfl]
      at hprinted
    exact absurd hprinted (by decide +kernel)
  · have hrequest := hrequests {} "SELECT * FROM a INNER JOIN b ON -1" (by decide +kernel)
    have hmisuse : commandRequest (wordsOfText "SELECT * FROM a INNER JOIN b ON -1") = .misuse := by
      decide +kernel
    rw [hmisuse] at hrequest
    cases hrequest

end KeyJoin
