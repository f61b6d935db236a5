import KeyJoin.KeyedJoin

/-!
# Projection of joined rows

A projection keeps all cells of a joined row, one field or several fields in
the order of the select list.  An invalid projection fails before any row is
looked at, so it is reported for an empty join as well.
-/

namespace KeyJoin

inductive Side
  | left
  | right
  deriving DecidableEq, Repr

/-- A column of the join, bound to the side it is on and its position there. -/
structure ResolvedField where
  relation : String
  column : String
  side : Side
  position : Nat
  deriving DecidableEq, Repr

def ResolvedField.qualifiedName (field : ResolvedField) : String :=
  field.relation ++ "." ++ field.column

inductive Projection
  | all
  | single (field : ResolvedField)
  | several (fields : List ResolvedField)
  | invalid (field : String) (fault : FieldFault) (suggestion : Option String)
  deriving DecidableEq, Repr

def Projection.validate : Projection → Except Failure Unit
  | invalid field fault suggestion => .error (.fieldReference field fault suggestion)
  | _ => .ok ()

def Projection.label : Projection → String
  | all => "*"
  | single field => field.qualifiedName
  | several fields => String.intercalate ", " (fields.map ResolvedField.qualifiedName)
  | invalid field _ _ => "invalid(" ++ field ++ ")"

/-- What a join prints: one line for each joined row, or that there was none. -/
inductive Output
  | rows (lines : List String)
  | noRows
  deriving DecidableEq, Repr

def Output.lines : Output → List String
  | rows lines => lines
  | noRows => []

def Output.render (noRowsIndicator : String) : Output → String
  | rows lines => String.intercalate "\n" lines
  | noRows => noRowsIndicator

/-- A row too short for the field has the empty text there. -/
def JoinedRow.value (row : JoinedRow) (field : ResolvedField) : String :=
  match field.side with
  | .left => (row.left.get? field.position).getD ""
  | .right => (row.right.get? field.position).getD ""

def outputOf (line : JoinedRow → String) (joined : List JoinedRow) : Output :=
  if joined.isEmpty then .noRows else .rows (joined.map line)

def project (projection : Projection) (joined : List JoinedRow) : Except Failure Output :=
  match projection with
  | .all => .ok (outputOf (fun row => String.intercalate " | " row.cells) joined)
  | .single field => .ok (outputOf (fun row => row.value field) joined)
  | .several fields =>
    .ok (outputOf (fun row => String.intercalate " | " (fields.map row.value)) joined)
  | .invalid field fault suggestion => .error (.fieldReference field fault suggestion)

end KeyJoin
