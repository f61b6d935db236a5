import KeyJoin.Tools.Regex

/-!
# Scripts for editing lines

A script is a sequence of instructions.  Each has a selector, which says for
which lines it is carried out, and a command.  The lines go one by one through a
work space, which commands change, print and compare; a second space keeps text
from line to line.
-/

namespace KeyJoin.Tools.Editing

/-- An expression with whether lines within the work space start and end as the space does. -/
structure LinePattern where
  regex : Regex
  isLinewise : Bool

/-- A line: by its number, the last one, one in which a pattern matches, or each of a row. An absent
pattern is the one used last. -/
inductive Address
  | line (number : Nat)
  | last
  | pattern (pattern? : Option LinePattern)
  | row (first step : Nat)

/-- Where a range ends: at an address, some lines on, or at a multiple. -/
inductive RangeEnd
  | address (address : Address)
  | after (count : Nat)
  | multiple (number : Nat)

structure Selector where
  first : Option Address := none
  last : Option RangeEnd := none
  isNegated : Bool := false

inductive LetterCase
  | unchanged
  | lower
  | upper
  deriving DecidableEq

inductive ReplacementPart
  | text (text : RawText)
  | group (number : Nat)
  | allCase (letterCase : LetterCase)
  | nextCase (letterCase : LetterCase)

structure Substitution where
  pattern : Option LinePattern
  replacement : List ReplacementPart
  isGlobal : Bool := false
  occurrence : Nat := 1
  prints : Bool := false
  output : Option RawText := none

inductive JumpCondition
  | always
  | ifReplaced
  | unlessReplaced

/-- A command.  A block names the place of the instruction after it. -/
inductive Command
  | block (after : Nat)
  | nothing
  | jump (condition : JumpCondition) (label : RawText)
  | append (text : RawText)
  | insert (text : RawText)
  | change (text : RawText)
  | delete
  | deleteFirst
  | print
  | printFirst
  | printNumber
  | printName
  | list (width : Option Nat)
  | next
  | appendNext
  | quit (status : Nat) (prints : Bool)
  | copyKept
  | appendKept
  | keep
  | keepMore
  | exchange
  | empty
  | readFile (name : RawText)
  | readLine (name : RawText)
  | writeFile (name : RawText)
  | writeFirst (name : RawText)
  | substitute (substitution : Substitution)
  | transliterate (table : List (Char × Char))

structure Instruction where
  selector : Selector
  command : Command

structure Script where
  instructions : Array Instruction := #[]
  labels : List (RawText × Nat) := []
  isSilent : Bool := false

/-- The files that a script writes to. -/
def Script.outputs (script : Script) : List RawText :=
  script.instructions.toList.filterMap fun instruction =>
    match instruction.command with
    | .writeFile name | .writeFirst name => some name
    | .substitute substitution => substitution.output
    | _ => none

end KeyJoin.Tools.Editing
