import KeyJoin.JoinRecognition

/-!
# Scripts without join statements

A script is taken line by line.  A line that is a join statement becomes the
statement that lists both relations; every other line is kept, among them blank
lines and comments.  All lines are trimmed and ended by a line feed.
-/

namespace KeyJoin

def isComment (line : List Char) : Bool :=
  ['-', '-'].isPrefixOf line

def commaJoinLine (columns : ColumnNames) (line : List Char) : List Char :=
  let line := trim line
  if line.isEmpty || isComment line then line
  else
    match recognizeJoin? columns (String.ofList line) with
    | some query => query.commaJoin.toList
    | none => line

def commaJoinScript (columns : ColumnNames) (script : String) : String :=
  String.ofList ((lines script.toList).flatMap fun line => commaJoinLine columns line ++ ['\n'])

end KeyJoin
