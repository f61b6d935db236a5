import KeyJoin.Host.RawText

/-!
# Programs over records

A program is a list of rules.  Each has a pattern, which chooses records, and an
action, which is carried out for them.  Expressions have numbers and texts for
values, which turn into each other where they are needed; tables are passed to
functions as they are, and all else by value.
-/

namespace KeyJoin.Tools.Records

inductive Arithmetic
  | add
  | subtract
  | multiply
  | divide
  | remainder
  | power
  deriving DecidableEq, Repr

inductive Comparison
  | less
  | lessOrEqual
  | equal
  | notEqual
  | greater
  | greaterOrEqual
  deriving DecidableEq, Repr

mutual

inductive Expr
  | number (value : Float)
  | text (text : RawText)
  | regex (text : RawText)
  | variable (name : RawText)
  | element (name : RawText) (keys : List Expr)
  | field (index : Expr)
  | assign (operation : Option Arithmetic) (target value : Expr)
  | conditional (condition whenTrue whenFalse : Expr)
  | both (first second : Expr)
  | either (first second : Expr)
  | not (body : Expr)
  | negate (body : Expr)
  | plain (body : Expr)
  | calculate (operation : Arithmetic) (first second : Expr)
  | join (first second : Expr)
  | compare (comparison : Comparison) (first second : Expr)
  | matching (isNegated : Bool) (subject pattern : Expr)
  | member (keys : List Expr) (table : RawText)
  | step (isBefore isUp : Bool) (target : Expr)
  | call (name : RawText) (arguments : List Expr)
  | builtin (name : RawText) (arguments : List Expr)
  | readLine (source : LineSource) (target : Option Expr)
  | list (parts : List Expr)

/-- Where a line is read from. -/
inductive LineSource
  | input
  | file (name : Expr)
  | command (text : Expr)

end

inductive OutputKind
  | file
  | append
  | command
  deriving DecidableEq, Repr

inductive Stmt
  | expression (body : Expr)
  | print (parts : List Expr) (target : Option (OutputKind × Expr))
  | format (parts : List Expr) (target : Option (OutputKind × Expr))
  | ifElse (condition : Expr) (whenTrue : Stmt) (whenFalse : Option Stmt)
  | whileLoop (condition : Expr) (body : Stmt)
  | doLoop (body : Stmt) (condition : Expr)
  | forLoop (first : Option Stmt) (condition : Option Expr) (step : Option Stmt) (body : Stmt)
  | forKeys (target : RawText) (table : RawText) (body : Stmt)
  | block (body : List Stmt)
  | delete (table : RawText) (keys : List Expr)
  | next
  | nextFile
  | leave (status : Option Expr)
  | return (value : Option Expr)
  | break
  | continue

inductive Pattern
  | begin
  | finish
  | always
  | condition (condition : Expr)
  | range (first last : Expr)

structure Rule where
  pattern : Pattern
  action : Option Stmt

structure Function where
  name : RawText
  parameters : List RawText
  body : Stmt

structure Program where
  rules : List Rule := []
  functions : List Function := []

end KeyJoin.Tools.Records
