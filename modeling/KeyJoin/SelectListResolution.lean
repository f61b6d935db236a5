import KeyJoin.FieldProjection
import KeyJoin.LowercaseText
import KeyJoin.NameSimilarity
import KeyJoin.QueryTokens

/-!
# Resolution of a select list

A select list is a single star or a list of items between commas.  An item is
a column or a column qualified by a relation, and resolves to a column of the
join: a qualifier means the left relation before the right one, an unqualified
column must be on exactly one side.  Names are compared up to the case of the
letters A to Z, and of several columns of one name the first counts.  The first
item that does not resolve makes the whole projection invalid; if it is a
reference to a column, the qualified column most similar to it is suggested.
-/

namespace KeyJoin

structure ColumnReference where
  relation? : Option String
  column : String
  deriving DecidableEq, Repr

def columnReference? (tokens : List Token) : Option ColumnReference :=
  match tokens.map Token.kind with
  | [.word column] => some ⟨none, String.ofList column⟩
  | [.word relation, .dot, .word column] =>
    some ⟨some (String.ofList relation), String.ofList column⟩
  | _ => none

def ColumnNames.onSide (columns : ColumnNames) : Side → List String
  | .left => columns.left
  | .right => columns.right

/-- The two relations of a join, with the columns of either side. -/
structure JoinScope where
  columns : ColumnNames
  left : String
  right : String
  deriving DecidableEq, Repr

def JoinScope.relation (scope : JoinScope) : Side → String
  | .left => scope.left
  | .right => scope.right

def findColumn? (column : String) : List String → Option (Nat × String)
  | [] => none
  | name :: names =>
    if sameIgnoringCase name column then some (0, name)
    else (findColumn? column names).map fun (position, name) => (position + 1, name)

def JoinScope.bind? (scope : JoinScope) (side : Side) (column : String) : Option ResolvedField :=
  (findColumn? column (scope.columns.onSide side)).map fun (position, name) =>
    ⟨scope.relation side, name, side, position⟩

def JoinScope.sideOf? (scope : JoinScope) (qualifier : String) : Option Side :=
  if sameIgnoringCase qualifier scope.left then some .left
  else if sameIgnoringCase qualifier scope.right then some .right
  else none

def JoinScope.resolve (scope : JoinScope) (reference : ColumnReference) :
    Except FieldFault ResolvedField :=
  match reference.relation? with
  | some qualifier =>
    match scope.sideOf? qualifier with
    | none => .error (.foreignRelation qualifier)
    | some side =>
      match scope.bind? side reference.column with
      | some field => .ok field
      | none => .error (.missingColumn (scope.relation side) reference.column)
  | none =>
    match scope.bind? .left reference.column, scope.bind? .right reference.column with
    | some field, none => .ok field
    | none, some field => .ok field
    | some _, some _ => .error (.ambiguousColumn reference.column scope.left scope.right)
    | none, none => .error (.unknownColumn reference.column)

/-- The qualified columns of the join, those of the left side first. -/
def JoinScope.candidates (scope : JoinScope) : List String :=
  (scope.columns.left.map fun column => scope.left ++ "." ++ column) ++
    (scope.columns.right.map fun column => scope.right ++ "." ++ column)

/-- The entry of the highest score, the last one if several have it. -/
def highestScored : List (Float × String) → Option (Float × String)
  | [] => none
  | entry :: entries =>
    match highestScored entries with
    | none => some entry
    | some best => if entry.1 > best.1 then some entry else some best

/-- The qualified column most similar to `written` without regard to case, if its score is at
least 0.8 and it is not `written` itself. -/
def JoinScope.suggest (scope : JoinScope) (written : List Char) : Option String :=
  let plain := lowercase written
  let scored := (scope.candidates.filter fun name => lowercase name.toList != plain).map
    fun name => (jaroWinklerScore plain (lowercase name.toList), name)
  (highestScored (scored.filter fun entry => entry.1 >= 0.8)).map (·.2)

def tokensText (tokens : List Token) : List Char :=
  tokens.flatMap fun token => token.kind.text

/-- The projection in place of one whose item cannot be used, or the field the item means. -/
def JoinScope.resolveItem (scope : JoinScope) (item : List Token) :
    Except Projection ResolvedField :=
  let written := tokensText item
  match columnReference? item with
  | none => .error (.invalid (String.ofList written) .unsupportedExpression none)
  | some reference =>
    match scope.resolve reference with
    | .ok field => .ok field
    | .error fault => .error (.invalid (String.ofList written) fault (scope.suggest written))

def resolveItems (scope : JoinScope) : List (List Token) → Except Projection (List ResolvedField)
  | [] => .ok []
  | item :: items =>
    match scope.resolveItem item with
    | .error projection => .error projection
    | .ok field =>
      match resolveItems scope items with
      | .error projection => .error projection
      | .ok fields => .ok (field :: fields)

def projectionOfFields : List ResolvedField → Projection
  | [field] => .single field
  | fields => .several fields

def JoinScope.projection (scope : JoinScope) (selectList : List Token) : Projection :=
  if selectList.map Token.kind = [.star] then .all
  else
    match resolveItems scope (selectList.splitOnP fun token => token.kind == .comma) with
    | .error projection => projection
    | .ok fields => projectionOfFields fields

end KeyJoin
