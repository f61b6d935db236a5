import KeyJoin.JoinSimulation
import KeyJoin.Proofs.JoinPairs

/-!
# Runs of a simulation

A run is described by where it ends: at a statement that is no join, at an
invalid projection, at the scan of the left or of the right relation, or with
an answer.  Each end fixes the result and the relations scanned up to it.  The
description of an answer knows neither the nested loops nor the formatter: it
counts pairs of positions, and prints the projected cells of the rows there.
Every simulation is such a run, and no other.
-/

namespace KeyJoin

variable {settings : Settings} {scanner : Scanner} {earlier : List String} {name : String}

/-! ## Answers -/

def ResolvedField.cellIn (field : ResolvedField) (left right : Row) : String :=
  let row := match field.side with
    | .left => left
    | .right => right
  (row.cells[field.position]?).getD ""

/-- The cells of a pair of rows that a projection keeps. -/
def Projection.cellsIn (left right : Row) : Projection → List String
  | all => left.cells ++ right.cells
  | single field => [field.cellIn left right]
  | several fields => fields.map fun field => field.cellIn left right
  | invalid .. => []

def Projection.IsValid (projection : Projection) : Prop :=
  ∀ field fault suggestion, projection ≠ .invalid field fault suggestion

/-- One line for each pair of positions with agreeing keys, or a sign that there is none. -/
def Projection.outputIn (projection : Projection) (left right : List Row) : Output :=
  if matchCount left right = 0 then .noRows
  else
    .rows ((matchingPairs left right).map fun pair =>
      String.intercalate " | " (projection.cellsIn left[pair.1]! right[pair.2]!))

def JoinQuery.answer (query : JoinQuery) (left right : List Row) : Outcome :=
  { leftRelation := query.leftRelation
    rightRelation := query.rightRelation
    condition := query.conditionText
    projection := query.projection.label
    leftRows := left.length
    rightRows := right.length
    matchedRows := matchCount left right
    output := query.projection.outputIn left right }

theorem Projection.validate_eq_ok {projection : Projection} (hvalid : projection.IsValid) :
    projection.validate = .ok () := by
  cases projection with
  | invalid field fault suggestion => exact absurd rfl (hvalid field fault suggestion)
  | _ => rfl

theorem Projection.isValid_of_validate {projection : Projection}
    (h : projection.validate = .ok ()) : projection.IsValid := by
  rintro field fault suggestion rfl
  cases h

theorem outputOf_joinRows (line : JoinedRow → String) (left right : List Row) :
    outputOf line (joinRows left right) =
      if matchCount left right = 0 then .noRows
      else .rows ((matchingPairs left right).map fun pair =>
        line ⟨left[pair.1]!, right[pair.2]!⟩) := by
  rw [outputOf, joinRows_eq_map_matchingPairs, ← length_matchingPairs, List.map_map]
  cases matchingPairs left right <;> simp

theorem JoinedRow.value_eq_cellIn (left right : Row) :
    JoinedRow.value ⟨left, right⟩ = fun field => field.cellIn left right := by
  funext field
  unfold JoinedRow.value ResolvedField.cellIn
  cases field.side <;> rfl

theorem project_joinRows {projection : Projection} (hvalid : projection.IsValid)
    (left right : List Row) :
    project projection (joinRows left right) = .ok (projection.outputIn left right) := by
  cases projection with
  | invalid field fault suggestion => exact absurd rfl (hvalid field fault suggestion)
  | all =>
      simp only [project, Projection.outputIn, Projection.cellsIn, outputOf_joinRows]
      rfl
  | single field =>
      simp only [project, Projection.outputIn, Projection.cellsIn, outputOf_joinRows,
        JoinedRow.value_eq_cellIn]
      rfl
  | several fields =>
      simp only [project, Projection.outputIn, Projection.cellsIn, outputOf_joinRows,
        JoinedRow.value_eq_cellIn]

theorem joinOutcome_eq_answer {query : JoinQuery} (hvalid : query.projection.IsValid)
    (left right : List Row) :
    joinOutcome query left right = .ok (query.answer left right) := by
  simp only [joinOutcome, project_joinRows hvalid, JoinQuery.answer]
  rw [joinRows_eq_map_matchingPairs, List.length_map, length_matchingPairs]

/-! ## Scans -/

/-- The scan of a relation fails: the scanner refuses it, or its text is no table. -/
inductive ScanFails (settings : Settings) (scanner : Scanner) (earlier : List String)
    (name : String) : Failure → Prop
  | refused {failure : Failure} (answer : scanner earlier name = .error failure) :
      ScanFails settings scanner earlier name failure
  | noTable {text : String} {fault : ScanFault} (answer : scanner earlier name = .ok text)
      (rejected : checkScan settings.markers text = .error fault) :
      ScanFails settings scanner earlier name (.scan name fault)

/-- The scan of a relation yields a table with these rows. -/
inductive ScanYields (settings : Settings) (scanner : Scanner) (earlier : List String)
    (name : String) : List Row → Prop
  | table {text : String} (answer : scanner earlier name = .ok text)
      (accepted : checkScan settings.markers text = .ok ()) :
      ScanYields settings scanner earlier name (parseRows settings.markers.discard text)

theorem loadRelation_eq_error_iff {failure : Failure} :
    loadRelation settings.markers scanner earlier name = .error failure ↔
      ScanFails settings scanner earlier name failure := by
  constructor
  · intro h
    unfold loadRelation at h
    split at h
    · rename_i answer
      cases h
      exact .refused answer
    · rename_i text answer
      split at h
      · rename_i fault rejected
        cases h
        exact .noTable answer rejected
      · cases h
  · intro h
    cases h with
    | refused answer => simp [loadRelation, answer]
    | noTable answer rejected => simp [loadRelation, answer, rejected]

theorem scanYields_of_loadRelation {relation : Relation}
    (h : loadRelation settings.markers scanner earlier name = .ok relation) :
    ScanYields settings scanner earlier name relation.rows := by
  unfold loadRelation at h
  split at h
  · cases h
  · rename_i text answer
    split at h
    · cases h
    · rename_i accepted
      cases h
      exact .table answer accepted

theorem ScanYields.loadRelation_eq {rows : List Row}
    (h : ScanYields settings scanner earlier name rows) :
    loadRelation settings.markers scanner earlier name = .ok ⟨name, rows⟩ := by
  cases h with
  | table answer accepted => simp only [loadRelation, answer, accepted]

/-! ## Runs -/

/-- The end a simulation of the statement comes to: its result and the relations scanned. -/
inductive Simulates (settings : Settings) (scanner : Scanner) (statement : String) :
    Simulation → Prop
  | notAJoin (unrecognized : recognizeJoin? settings.columns statement = none) :
      Simulates settings scanner statement ⟨.error (.notAJoin (trimText statement)), []⟩
  | invalidProjection {query : JoinQuery} {field : String} {fault : FieldFault}
      {suggestion : Option String}
      (recognized : recognizeJoin? settings.columns statement = some query)
      (invalid : query.projection = .invalid field fault suggestion) :
      Simulates settings scanner statement ⟨.error (.fieldReference field fault suggestion), []⟩
  | leftFails {query : JoinQuery} {failure : Failure}
      (recognized : recognizeJoin? settings.columns statement = some query)
      (valid : query.projection.IsValid)
      (left : ScanFails settings scanner [] query.leftRelation failure) :
      Simulates settings scanner statement ⟨.error failure, [query.leftRelation]⟩
  | rightFails {query : JoinQuery} {leftRows : List Row} {failure : Failure}
      (recognized : recognizeJoin? settings.columns statement = some query)
      (valid : query.projection.IsValid)
      (left : ScanYields settings scanner [] query.leftRelation leftRows)
      (right : ScanFails settings scanner [query.leftRelation] query.rightRelation failure) :
      Simulates settings scanner statement
        ⟨.error failure, [query.leftRelation, query.rightRelation]⟩
  | answered {query : JoinQuery} {leftRows rightRows : List Row}
      (recognized : recognizeJoin? settings.columns statement = some query)
      (valid : query.projection.IsValid)
      (left : ScanYields settings scanner [] query.leftRelation leftRows)
      (right : ScanYields settings scanner [query.leftRelation] query.rightRelation rightRows) :
      Simulates settings scanner statement
        ⟨.ok (query.answer leftRows rightRows), [query.leftRelation, query.rightRelation]⟩

theorem simulate_of_recognized {statement : String} {query : JoinQuery}
    (h : recognizeJoin? settings.columns statement = some query) :
    simulate settings scanner statement = simulateQuery settings.markers scanner query := by
  simp only [simulate, extractJoin, h]

theorem simulates_simulate (settings : Settings) (scanner : Scanner) (statement : String) :
    Simulates settings scanner statement (simulate settings scanner statement) := by
  cases hrecognized : recognizeJoin? settings.columns statement with
  | none =>
      simp only [simulate, extractJoin, hrecognized]
      exact .notAJoin hrecognized
  | some query =>
      rw [simulate_of_recognized hrecognized, simulateQuery]
      by_cases hvalid : query.projection.IsValid
      · simp only [Projection.validate_eq_ok hvalid]
        cases hleft : loadRelation settings.markers scanner [] query.leftRelation with
        | error failure =>
            exact .leftFails hrecognized hvalid (loadRelation_eq_error_iff.mp hleft)
        | ok left =>
            have hleftRows := scanYields_of_loadRelation hleft
            cases hright : loadRelation settings.markers scanner [query.leftRelation]
                query.rightRelation with
            | error failure =>
                exact .rightFails hrecognized hvalid hleftRows
                  (loadRelation_eq_error_iff.mp hright)
            | ok right =>
                have hrightRows := scanYields_of_loadRelation hright
                simp only [joinOutcome_eq_answer hvalid]
                exact .answered hrecognized hvalid hleftRows hrightRows
      · simp only [Projection.IsValid, not_forall, not_not] at hvalid
        obtain ⟨field, fault, suggestion, hinvalid⟩ := hvalid
        simp only [hinvalid, Projection.validate]
        exact .invalidProjection hrecognized hinvalid

theorem Simulates.eq_simulate {statement : String} {simulation : Simulation}
    (h : Simulates settings scanner statement simulation) :
    simulate settings scanner statement = simulation := by
  cases h with
  | notAJoin unrecognized => simp only [simulate, extractJoin, unrecognized]
  | invalidProjection recognized invalid =>
      rw [simulate_of_recognized recognized]
      simp only [simulateQuery, invalid, Projection.validate]
  | leftFails recognized valid left =>
      rw [simulate_of_recognized recognized]
      simp only [simulateQuery, Projection.validate_eq_ok valid,
        loadRelation_eq_error_iff.mpr left]
  | rightFails recognized valid left right =>
      rw [simulate_of_recognized recognized]
      simp only [simulateQuery, Projection.validate_eq_ok valid,
        left.loadRelation_eq, loadRelation_eq_error_iff.mpr right]
  | answered recognized valid left right =>
      rw [simulate_of_recognized recognized]
      simp only [simulateQuery, Projection.validate_eq_ok valid,
        left.loadRelation_eq, right.loadRelation_eq,
        joinOutcome_eq_answer valid]

/-- A simulation whose outcome, if it has one, is changed by `f`. -/
def Simulation.mapOutcome (f : Outcome → Outcome) (simulation : Simulation) : Simulation :=
  ⟨simulation.result.map f, simulation.scans⟩

/-- Queries of the same relations that are both refused, or whose answers `f` does not tell apart,
come to the same end. -/
theorem mapOutcome_simulate_eq {f : Outcome → Outcome} {first second : String}
    {query other : JoinQuery} (hfirst : recognizeJoin? settings.columns first = some query)
    (hsecond : recognizeJoin? settings.columns second = some other)
    (hvalidate : query.projection.validate = other.projection.validate)
    (hleft : query.leftRelation = other.leftRelation)
    (hright : query.rightRelation = other.rightRelation)
    (hanswer : ∀ leftRows rightRows,
      ScanYields settings scanner [] query.leftRelation leftRows →
      ScanYields settings scanner [query.leftRelation] query.rightRelation rightRows →
      f (query.answer leftRows rightRows) = f (other.answer leftRows rightRows)) :
    (simulate settings scanner first).mapOutcome f =
      (simulate settings scanner second).mapOutcome f := by
  rw [simulate_of_recognized hfirst, simulate_of_recognized hsecond, simulateQuery, simulateQuery,
    ← hvalidate, ← hleft, ← hright]
  cases hvalid : query.projection.validate with
  | error failure => rfl
  | ok _ =>
      have hother := hvalidate.symm.trans hvalid
      cases hl : loadRelation settings.markers scanner [] query.leftRelation with
      | error failure => rfl
      | ok left =>
          cases hr : loadRelation settings.markers scanner [query.leftRelation]
              query.rightRelation with
          | error failure => rfl
          | ok right =>
              have hanswers := hanswer _ _ (scanYields_of_loadRelation hl)
                (scanYields_of_loadRelation hr)
              simp only [joinOutcome_eq_answer (Projection.isValid_of_validate hvalid),
                joinOutcome_eq_answer (Projection.isValid_of_validate hother),
                Simulation.mapOutcome, Except.map, hanswers]

theorem exists_answer_of_simulate {statement : String} {outcome : Outcome}
    (h : (simulate settings scanner statement).result = .ok outcome) :
    ∃ query leftRows rightRows,
      recognizeJoin? settings.columns statement = some query ∧ query.projection.IsValid ∧
      ScanYields settings scanner [] query.leftRelation leftRows ∧
      ScanYields settings scanner [query.leftRelation] query.rightRelation rightRows ∧
      outcome = query.answer leftRows rightRows := by
  have hsimulates := simulates_simulate settings scanner statement
  generalize simulate settings scanner statement = simulation at h hsimulates
  cases hsimulates with
  | answered recognized valid left right =>
      cases h
      exact ⟨_, _, _, recognized, valid, left, right, rfl⟩
  | _ => cases h

/-- A simulation comes to the one end that the statement, the settings and the scanner's answers
determine. -/
theorem simulates_iff (settings : Settings) (scanner : Scanner) (statement : String)
    (simulation : Simulation) :
    Simulates settings scanner statement simulation ↔
      simulate settings scanner statement = simulation := by
  constructor
  · exact Simulates.eq_simulate
  · rintro rfl
    exact simulates_simulate settings scanner statement

end KeyJoin
