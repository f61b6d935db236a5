import KeyJoin.Host.Conversion
import KeyJoin.Tools.Amounts
import KeyJoin.Tools.Lines
import KeyJoin.Tools.Options

/-!
# Comparing bytes

A tool that reads two files side by side and tells the first place where they
differ, or all such places, or only whether there is one.  If one file ends
before the other, that is a difference too.
-/

namespace KeyJoin.Tools

open Tool

/-- Says how a tool is used wrongly, with its name in front of both lines. -/
def namedMisuse {α : Type} (status : Nat) (text : RawText) : Tool α := do
  if !text.isEmpty then say text
  let name := (← get).name
  say (raw "Try '" ++ name ++ raw " --help' for more information.")
  exit status

inductive ByteReport
  | first
  | all
  | status
  deriving DecidableEq

/-- What has been compared so far. -/
structure ByteProgress where
  count : Nat := 0
  line : Nat := 1
  atLineStart : Bool := true
  differs : Bool := false

/-- How two files are compared. -/
structure ByteComparison where
  firstName : RawText
  secondName : RawText
  report : ByteReport
  showsBytes : Bool
  width : Nat

/-- A byte in octal digits. -/
def octalByte (c : Char) : RawText :=
  padLeft 3 (digitsInBase 8 c.toNat)

/-- A byte as it can be printed. -/
def visibleByte (c : Char) : RawText :=
  let display : ByteDisplay := ⟨true, true⟩
  if c == '\n' then ['^', 'J'] else display.show c

namespace ByteComparison

variable (comparison : ByteComparison)

/-- Reads more of a file if nothing of it is left. -/
def refill (number limit : Nat) (text : RawText) : Tool (Fallible RawText) := do
  if !text.isEmpty then return .ok text
  ask (.read number (min 4096 limit))

def tellDifference (progress : ByteProgress) (a b : Char) : Tool Unit := do
  let place := naturalText (progress.count + 1)
  match comparison.report with
  | .status => return
  | .first =>
    let unit := if comparison.showsBytes then raw "byte " else raw "char "
    let bytes :=
      if comparison.showsBytes then
        raw " is " ++ octalByte a ++ ' ' :: visibleByte a ++ ' ' :: octalByte b ++
          ' ' :: visibleByte b
      else []
    putLine (comparison.firstName ++ ' ' :: comparison.secondName ++ raw " differ: " ++ unit ++
      place ++ raw ", line " ++ naturalText progress.line ++ bytes)
  | .all =>
    let shown := padLeft comparison.width place ++ ' ' :: octalByte a ++ ' ' ::
      (if comparison.showsBytes then
        padRight 4 (visibleByte a) ++ ' ' :: octalByte b ++ ' ' :: visibleByte b
      else octalByte b)
    putLine shown

/-- Compares texts up to the end of the shorter one; the answer tells whether to go on. -/
def compareTexts :
    RawText → RawText → ByteProgress → Tool (ByteProgress × RawText × RawText × Bool)
  | a :: as, b :: bs, progress => do
    if a != b then comparison.tellDifference progress a b
    let next : ByteProgress :=
      { count := progress.count + 1
        line := if a == '\n' then progress.line + 1 else progress.line
        atLineStart := a == '\n'
        differs := progress.differs || a != b }
    if a != b && comparison.report != .all then return (next, as, bs, false)
    compareTexts as bs next
  | as, bs, progress => return (progress, as, bs, true)

def tellEnd (name : RawText) (progress : ByteProgress) : Tool Unit := do
  if comparison.report = .status then return
  let start := raw "EOF on " ++ name
  if progress.count = 0 then say (start ++ raw " which is empty")
  else
    let place := start ++ raw " after byte " ++ naturalText progress.count
    if comparison.report = .all then say place
    else if progress.atLineStart then
      say (place ++ raw ", line " ++ naturalText (progress.line - 1))
    else say (place ++ raw ", in line " ++ naturalText progress.line)

def fault (name : RawText) (fault : SystemFault) : Tool Unit := do
  if comparison.report != .status then sayFault name fault
  exit 2

/-- Compares two open files up to a number of bytes. -/
def run (first second : Nat) :
    Nat → Nat → RawText → RawText → ByteProgress → Tool Unit
  | 0, _, _, _, _ => return
  | fuel + 1, limit, a, b, progress => do
    if limit = 0 then
      if progress.differs then setStatus 1
    else
      match ← refill first limit a with
      | .error reason => comparison.fault comparison.firstName reason
      | .ok a =>
        match ← refill second limit b with
        | .error reason => comparison.fault comparison.secondName reason
        | .ok b =>
          match a, b with
          | [], [] => if progress.differs then setStatus 1
          | [], _ =>
            comparison.tellEnd comparison.firstName progress
            setStatus 1
          | _, [] =>
            comparison.tellEnd comparison.secondName progress
            setStatus 1
          | a, b =>
            let (next, a, b, goesOn) ← comparison.compareTexts a b progress
            if goesOn then run first second fuel (limit - (next.count - progress.count)) a b next
            else setStatus 1

end ByteComparison

/-! ## Options -/

/-- Numbers of bytes to pass over, in the first and in the second file. -/
def skippedBytes? (text : RawText) : Option (Nat × Nat) :=
  match splitAtFirst? (· == ':') text with
  | some (a, b) =>
    match sizedNumber? a none, sizedNumber? b none with
    | some a, some b => some (a, b)
    | _, _ => none
  | none => (sizedNumber? text none).map fun n => (n, n)

/-- Reads and forgets some bytes. -/
def passBytes (number : Nat) : Nat → Nat → Tool Unit
  | 0, _ => return
  | fuel + 1, n => do
    if n = 0 then return
    match ← ask (.read number (min n 65536)) with
    | .ok (c :: cs) => passBytes number fuel (n - (c :: cs).length)
    | _ => return

/-- Opens a file, or takes the standard input. -/
def openInput (name : RawText) : Tool (Fallible Nat) := do
  if name == standardInput then return .ok 0
  ask (.openFile name { reads := true })

/-- How many bytes are left in an open file of known size. -/
def remainingBytes (number skipped : Nat) : Tool (Option Nat) := do
  match ← ask (.statusOfOpen number) with
  | .ok status => return if status.kind == .regular then some (status.size - skipped) else none
  | .error _ => return none

def compareRules : List OptionRule :=
  [{ key := "b", letters := "b", name := "print-bytes" },
    { key := "b", letters := "c", name := "print-chars" },
    { key := "i", letters := "i", name := "ignore-initial", argument := .required },
    { key := "l", letters := "l", name := "verbose" },
    { key := "n", letters := "n", name := "bytes", argument := .required },
    { key := "s", letters := "s", name := "silent" }, { key := "s", name := "quiet" }]

def invalidValue {α : Type} (option : String) (value : RawText) : Tool α :=
  namedMisuse 2 (raw "invalid --" ++ raw option ++ raw " value " ++ quoted value)

def runCompareBytes (arguments : List RawText) : Tool Unit := do
  modify fun state => { state with usage := state.name ++ raw ": " }
  let options ← readOptions 2 compareRules arguments
  let (skippedFirst, skippedSecond) ←
    match options.value? "i" with
    | none => pure (0, 0)
    | some text =>
      match skippedBytes? text with
      | some skipped => pure skipped
      | none => invalidValue "ignore-initial" text
  let limit ←
    match options.value? "n" with
    | none => pure streamFuel
    | some text =>
      match sizedNumber? text none with
      | some n => pure n
      | none => invalidValue "bytes" text
  if options.has "l" && options.has "s" then
    namedMisuse 2 (raw "options -l and -s are incompatible")
  let skip := fun (text : RawText) => do
    match sizedNumber? text none with
    | some n => pure n
    | none => invalidValue "ignore-initial" text
  let (firstName, secondName, skippedFirst, skippedSecond) ←
    match options.operands with
    | [] => namedMisuse 2 (raw "missing operand after " ++ quoted (← get).name)
    | [a] => pure (a, standardInput, skippedFirst, skippedSecond)
    | [a, b] => pure (a, b, skippedFirst, skippedSecond)
    | [a, b, c] => do pure (a, b, ← skip c, skippedSecond)
    | [a, b, c, d] => do pure (a, b, ← skip c, ← skip d)
    | _ :: _ :: _ :: _ :: operand :: _ => namedMisuse 2 (raw "extra operand " ++ quoted operand)
  let openOrSay := fun (name : RawText) => do
    match ← openInput name with
    | .ok number => pure number
    | .error fault =>
      if !options.has "s" then sayFault name fault
      exit 2
  let first ← openOrSay firstName
  let second ← openOrSay secondName
  let sizes := [← remainingBytes first skippedFirst, ← remainingBytes second skippedSecond]
  let widest := (sizes.filterMap id).foldl min (if options.has "n" then limit else integerModulus / 2)
  let comparison : ByteComparison :=
    { firstName := firstName, secondName := secondName
      report := if options.has "s" then .status else if options.has "l" then .all else .first
      showsBytes := options.has "b", width := (naturalText (min widest limit)).length }
  match ← ask (.statusOfOpen first), ← ask (.statusOfOpen second) with
  | .ok a, .ok b =>
    if a.node == b.node && a.kind == .regular && skippedFirst == skippedSecond then exit 0
  | _, _ => pure ()
  passBytes first (skippedFirst + 1) skippedFirst
  passBytes second (skippedSecond + 1) skippedSecond
  comparison.run first second streamFuel limit [] [] {}

end KeyJoin.Tools
