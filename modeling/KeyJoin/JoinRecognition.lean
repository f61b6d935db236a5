import KeyJoin.SelectListResolution

/-!
# Recognition of a join of two relations

A join statement reads `SELECT` list `FROM` relation `INNER JOIN` relation `ON`
condition, with at most one semicolon at its end.  The list ends at the first
`FROM` at which the rest has this shape.  A further `JOIN` or `ON` in the
condition joins a third relation, and a semicolon anywhere else begins a second
statement: neither is a join statement.
-/

namespace KeyJoin

def withoutFinalSemicolon (tokens : List Token) : List Token :=
  if (tokens.getLast?.map Token.kind) = some .semicolon then tokens.dropLast else tokens

/-- What follows the select list of a join statement. -/
structure JoinClause where
  left : List Char
  right : List Char
  condition : List Token
  deriving DecidableEq, Repr

def joinClause? : List Token → Option JoinClause
  | fromWord :: left :: inner :: join :: right :: on :: token :: condition =>
    match left.word?, right.word? with
    | some left, some right =>
      if fromWord.isKeyword .fromClause && inner.isKeyword .inner && join.isKeyword .join &&
          on.isKeyword .on then
        some ⟨left, right, token :: condition⟩
      else none
    | _, _ => none
  | _ => none

/-- The tokens before the first join clause, and that clause. -/
def splitAtJoinClause? : List Token → Option (List Token × JoinClause)
  | [] => none
  | token :: tokens =>
    match joinClause? (token :: tokens) with
    | some clause => some ([], clause)
    | none => (splitAtJoinClause? tokens).map fun (before, clause) => (token :: before, clause)

/-- A select list of at least one token, and the join clause that follows it. -/
structure JoinStatement where
  selectList : List Token
  clause : JoinClause
  deriving DecidableEq, Repr

def joinStatementOf? : List Token → Option JoinStatement
  | select :: first :: rest =>
    if select.isKeyword .select then
      match splitAtJoinClause? rest with
      | none => none
      | some (before, clause) =>
        if clause.condition.any fun token => token.isKeyword .join || token.isKeyword .on then
          none
        else some ⟨first :: before, clause⟩
    else none
  | _ => none

def joinStatement? (tokens : List Token) : Option JoinStatement :=
  let body := withoutFinalSemicolon tokens
  if body.any fun token => token.kind == .semicolon then none else joinStatementOf? body

structure KeyCondition where
  left : ColumnReference
  right : ColumnReference
  deriving DecidableEq, Repr

/-- Reads a condition of the form `column = column`. -/
def keyCondition? (condition : List Token) : Option KeyCondition :=
  match condition.dropWhile fun token => token.kind != .equals with
  | [] => none
  | _ :: right =>
    match columnReference? (condition.takeWhile fun token => token.kind != .equals),
        columnReference? right with
    | some left, some right => some ⟨left, right⟩
    | _, _ => none

/-- A recognized join: its projection resolved, its texts as they were written. -/
structure JoinQuery where
  projection : Projection
  fieldsText : String
  leftRelation : String
  rightRelation : String
  conditionText : String
  keyCondition? : Option KeyCondition
  deriving DecidableEq, Repr

/-- The statement that lists both relations in its `FROM` clause and has no condition: the engine
answers it with the pairs among which the join selects. -/
def JoinQuery.commaJoin (query : JoinQuery) : String :=
  "SELECT " ++ query.fieldsText ++ " FROM " ++ query.leftRelation ++ ", " ++
    query.rightRelation ++ ";"

def recognizeJoin? (columns : ColumnNames) (statement : String) : Option JoinQuery :=
  let text := statement.toList
  match joinStatement? (tokenize text) with
  | none => none
  | some ⟨selectList, clause⟩ =>
    let left := String.ofList clause.left
    let right := String.ofList clause.right
    some
      { projection := JoinScope.projection ⟨columns, left, right⟩ selectList
        fieldsText := String.ofList (spanText text selectList)
        leftRelation := left
        rightRelation := right
        conditionText := String.ofList (spanText text clause.condition)
        keyCondition? := KeyJoin.keyCondition? clause.condition }

end KeyJoin
