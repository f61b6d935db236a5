import KeyJoin.Tools.Differences.Script
import KeyJoin.Tools.Regex
import Std.Data.HashMap

/-!
# Comparing texts

Lines are the same if nothing but what the rules ignore differs between them.
Lines that are equal at the start and at the end of both texts are taken off,
up to those that are shown around a change, and the rest is compared by the
classes of its lines.
-/

namespace KeyJoin.Tools.Differences

/-- A line without the line feed that ends it, if one does. -/
structure DiffLine where
  text : RawText
  isEnded : Bool
  deriving DecidableEq

def diffLines (text : RawText) : Array DiffLine :=
  ((endedLines text).map fun line =>
    ⟨lineBody line, line.getLast? == some '\n'⟩).toArray

/-- What is ignored of white space. -/
inductive SpaceRule
  | none
  | trailing
  | change
  | all
  deriving DecidableEq

structure LineRules where
  ignoresCase : Bool := false
  space : SpaceRule := .none
  expandsTabs : Bool := false
  stripsReturns : Bool := false
  ignoresBlank : Bool := false
  ignored : List Regex := []
  keepsAll : Bool := false
  completes : Bool := false

namespace LineRules

/-- A line in which each run of white space is one space, and none stands at the end. -/
def withSingleSpaces (text : RawText) : RawText :=
  let rec go : Bool → RawText → RawText
    | _, [] => []
    | wasSpace, c :: rest =>
      if isSpaceByte c then (if wasSpace then go true rest else ' ' :: go true rest)
      else c :: go false rest
  go false (trimEndOf isSpaceByte text)

def withoutTabs (text : RawText) : RawText :=
  (text.foldl
    (fun (out, column) c =>
      if c == '\t' then
        let n := 8 - column % 8
        (List.replicate n ' ' ++ out, column + n)
      else if c == '\x08' then (c :: out, column - 1)
      else (c :: out, column + 1))
    (([] : RawText), 0)).1.reverse

/-- What of a line is compared. -/
def comparedText (rules : LineRules) (text : RawText) : RawText :=
  let text := if rules.ignoresCase then text.map Char.toLower else text
  let text := if rules.expandsTabs && rules.space != .change then withoutTabs text else text
  match rules.space with
  | .none => text
  | .trailing => trimEndOf isSpaceByte text
  | .change => withSingleSpaces text
  | .all => text.filter fun c => !isSpaceByte c

/-- A key that is the same for lines that count as equal. -/
def key (rules : LineRules) (line : DiffLine) : String :=
  let isOpen := !line.isEnded && rules.space = .none && !rules.completes
  String.ofList ((if isOpen then 'o' else 'e') :: rules.comparedText line.text)

/-- Whether nobody needs to hear that a line was put in or removed. -/
def isTrivial (rules : LineRules) (line : DiffLine) : Bool :=
  let isBlank :=
    match rules.space with
    | .none => line.text.isEmpty
    | _ => line.text.all isSpaceByte
  (rules.ignoresBlank && isBlank) || rules.ignored.any fun regex => regex.occursIn line.text

def ignoresChanges (rules : LineRules) : Bool :=
  rules.ignoresBlank || !rules.ignored.isEmpty

/-- Whether texts with any other bytes differ. -/
def ignoresNothing (rules : LineRules) : Bool :=
  !rules.ignoresCase && rules.space == .none && !rules.expandsTabs && !rules.stripsReturns &&
    !rules.ignoresChanges

end LineRules

/-! ## Ends that are equal -/

/-- How many lines are equal at the start. -/
def commonStart (old new : Array DiffLine) : Nat → Nat → Nat
  | 0, n => n
  | fuel + 1, n =>
    match old[n]?, new[n]? with
    | some a, some b => if a = b then commonStart old new fuel (n + 1) else n
    | _, _ => n

/-- How many lines are equal at the end, of those behind the first `start`. -/
def commonEnd (old new : Array DiffLine) (start : Nat) : Nat → Nat → Nat
  | 0, n => n
  | fuel + 1, n =>
    if old.size ≤ start + n || new.size ≤ start + n then n
    else
      match old[old.size - 1 - n]?, new[new.size - 1 - n]? with
      | some a, some b => if a = b then commonEnd old new start fuel (n + 1) else n
      | _, _ => n

/-! ## Classes -/

/-- Numbers for lines, so that lines with the same key have the same number. -/
def classify (keys : Array String) (table : Std.HashMap String Nat) :
    Array Nat × Std.HashMap String Nat :=
  keys.foldl
    (fun (numbers, table) key =>
      match table.get? key with
      | some n => (numbers.push n, table)
      | none => (numbers.push table.size, table.insert key table.size))
    (#[], table)

/-- The changes between two texts; `around` is the number of equal lines that are kept around. -/
def changesBetweenTexts (rules : LineRules) (around : Nat) (old new : Array DiffLine) :
    List Change :=
  if old = new then []
  else
    let start := commonStart old new old.size 0 - around
    let stop := commonEnd old new start old.size 0 - around
    let middle := fun (lines : Array DiffLine) =>
      (lines.extract start (lines.size - stop)).map rules.key
    let (oldClasses, table) := classify (middle old) {}
    let (newClasses, table) := classify (middle new) table
    (changesBetween table.size rules.keepsAll oldClasses newClasses).map fun change =>
      { change with oldStart := change.oldStart + start, newStart := change.newStart + start }

/-- The lines of one side that a change touches. -/
def removedLines (old : Array DiffLine) (change : Change) : List DiffLine :=
  (old.extract change.oldStart change.oldEnd).toList

def addedLines (new : Array DiffLine) (change : Change) : List DiffLine :=
  (new.extract change.newStart change.newEnd).toList

/-- Whether a change touches only lines that are ignored. -/
def isIgnored (rules : LineRules) (old new : Array DiffLine) (change : Change) : Bool :=
  rules.ignoresChanges && (removedLines old change ++ addedLines new change).all rules.isTrivial

end KeyJoin.Tools.Differences
