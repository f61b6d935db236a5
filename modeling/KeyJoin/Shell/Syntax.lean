import KeyJoin.Host.RawText

/-!
# Commands of the shell

The syntax of the command language that engines are written in.  A word is a
sequence of items in the order they were written: characters, marks where
quoting begins or ends, substituted commands, and the openings and closings of
variables and of arithmetic expressions, between which their parts stand.
-/

namespace KeyJoin.Shell

/-- What is made of the value of a variable.  A text that stands for none of these is kept, and
refused when it is expanded. -/
inductive VariableOperation
  | value
  | length
  | orDefault
  | orAssign
  | orFail
  | ifPresent
  | withoutStart (longest : Bool)
  | withoutEnd (longest : Bool)
  | unknown
  deriving DecidableEq, Repr

inductive RedirectionKind
  | input
  | output
  | clobbering
  | appended
  | inputOutput
  | copiedInput
  | copiedOutput
  | document (id : Nat)
  deriving DecidableEq, Repr

mutual

/-- A part of a word.  With `orEmpty` an empty variable counts as unset. -/
inductive WordItem
  | plain (c : Char)
  | quoted (c : Char)
  | quoteMark
  | openVariable (name : RawText) (operation : VariableOperation) (orEmpty : Bool)
  | closeVariable
  | command (body : Option Command)
  | openArithmetic
  | closeArithmetic

inductive Command
  | simple (line : Nat) (assignments words : List (List WordItem))
      (redirections : List Redirection)
  | redirected (line : Nat) (body : Command) (redirections : List Redirection)
  | subshell (line : Nat) (body : Command) (redirections : List Redirection)
  | background (line : Nat) (body : Command) (redirections : List Redirection)
  | pipeline (inBackground : Bool) (commands : List Command)
  | negation (body : Command)
  | conjunction (first second : Command)
  | disjunction (first second : Command)
  | sequence (first second : Command)
  | conditional (condition body : Command) (otherwise : Option Command)
  | loop (whileSucceeding : Bool) (condition body : Command)
  | iteration (line : Nat) (name : RawText) (words : List (List WordItem)) (body : Command)
  | selection (line : Nat) (subject : List WordItem) (branches : List Branch)
  | definition (name : RawText) (body : Command)

/-- A branch of a selection; it may have no commands. -/
inductive Branch
  | mk (patterns : List (List WordItem)) (body : Option Command)

inductive Redirection
  | mk (number : Nat) (kind : RedirectionKind) (target : List WordItem)

end

abbrev ShellWord := List WordItem

def Redirection.number : Redirection → Nat
  | mk number _ _ => number

def Redirection.kind : Redirection → RedirectionKind
  | mk _ kind _ => kind

def Redirection.target : Redirection → ShellWord
  | mk _ _ target => target

/-- The characters of a word at its front that are neither quoted nor expanded. -/
def plainStart : ShellWord → RawText
  | .plain c :: rest => c :: plainStart rest
  | _ => []

/-- The text of a word that is neither quoted nor expanded anywhere. -/
def plainText? : ShellWord → Option RawText
  | [] => some []
  | .plain c :: rest => (plainText? rest).map (c :: ·)
  | _ => none

/-- The text of a word whose quotes are taken off. -/
def unquotedText : ShellWord → RawText
  | [] => []
  | .plain c :: rest | .quoted c :: rest => c :: unquotedText rest
  | _ :: rest => unquotedText rest

/-- Whether a word begins with a name and an equals sign. -/
def isAssignment (word : ShellWord) : Bool :=
  match plainStart word with
  | c :: rest => isNameStart c && (rest.dropWhile isNameCharacter).head? == some '='
  | [] => false

/-- The positional parameters as separate quoted words. -/
def allParameters : ShellWord :=
  [.quoteMark, .openVariable ['@'] .value false, .closeVariable, .quoteMark]

end KeyJoin.Shell
