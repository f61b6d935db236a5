import KeyJoin.JoinRecognition

/-!
# Simulation of a join by two scans

A join is answered by scanning the left and then the right relation and joining
the rows here.  The scanner is asked for one relation at a time and may answer
each question as it likes: it sees the relations asked for before.  What is
refused before the first scan is never scanned for, and nothing is scanned
after a failure.
-/

namespace KeyJoin

/-- Answers for a relation, given the relations asked for earlier, with a table as text. -/
abbrev Scanner := List String → String → Except Failure String

structure Outcome where
  leftRelation : String
  rightRelation : String
  condition : String
  projection : String
  leftRows : Nat
  rightRows : Nat
  matchedRows : Nat
  output : Output
  deriving DecidableEq, Repr

/-- What a simulation answers, and the relations scanned for it in order. -/
structure Simulation where
  result : Except Failure Outcome
  scans : List String

def extractJoin (columns : ColumnNames) (statement : String) : Except Failure JoinQuery :=
  match recognizeJoin? columns statement with
  | some query => .ok query
  | none => .error (.notAJoin (trimText statement))

/-- A relation as it was when it was scanned. -/
structure Relation where
  name : String
  rows : List Row
  deriving DecidableEq, Repr

def loadRelation (markers : LineMarkers) (scanner : Scanner) (earlier : List String)
    (name : String) : Except Failure Relation :=
  match scanner earlier name with
  | .error failure => .error failure
  | .ok text =>
    match checkScan markers text with
    | .error fault => .error (.scan name fault)
    | .ok () => .ok ⟨name, parseRows markers.discard text⟩

def joinOutcome (query : JoinQuery) (left right : List Row) : Except Failure Outcome :=
  let joined := joinRows left right
  match project query.projection joined with
  | .error failure => .error failure
  | .ok output =>
    .ok
      { leftRelation := query.leftRelation
        rightRelation := query.rightRelation
        condition := query.conditionText
        projection := query.projection.label
        leftRows := left.length
        rightRows := right.length
        matchedRows := joined.length
        output := output }

def simulateQuery (markers : LineMarkers) (scanner : Scanner) (query : JoinQuery) : Simulation :=
  match query.projection.validate with
  | .error failure => ⟨.error failure, []⟩
  | .ok () =>
    match loadRelation markers scanner [] query.leftRelation with
    | .error failure => ⟨.error failure, [query.leftRelation]⟩
    | .ok left =>
      match loadRelation markers scanner [query.leftRelation] query.rightRelation with
      | .error failure => ⟨.error failure, [query.leftRelation, query.rightRelation]⟩
      | .ok right =>
        ⟨joinOutcome query left.rows right.rows, [query.leftRelation, query.rightRelation]⟩

def simulate (settings : Settings) (scanner : Scanner) (statement : String) : Simulation :=
  match extractJoin settings.columns statement with
  | .error failure => ⟨.error failure, []⟩
  | .ok query => simulateQuery settings.markers scanner query

/-- Tables held as text under their names. -/
abbrev Tables := List (String × String)

/-- A table put under a name in use takes the place of the earlier one. -/
def Tables.put (tables : Tables) (name text : String) : Tables :=
  (name, text) :: tables.filter fun entry => entry.1 != name

def Tables.scanner (tables : Tables) : Scanner := fun _ name =>
  match tables.lookup name with
  | some text => .ok text
  | none => .error (.scan name .unknownRelation)

end KeyJoin
