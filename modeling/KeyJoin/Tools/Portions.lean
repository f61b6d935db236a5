import KeyJoin.Tools.Amounts
import KeyJoin.Tools.Options
import KeyJoin.Tools.Stream

/-!
# The first and the last lines

Two tools show a portion of their files: lines or bytes, counted from the start
or from the end, with headings between files.  Both also understand an older
way of asking, a count written right behind a dash or a plus.
-/

namespace KeyJoin.Tools

open Tool

/-- How much of a file is wanted: lines or bytes, all but the last ones or from some place on, if the
count begins at the other end. -/
structure Portion where
  countsLines : Bool := true
  count : Nat := 10
  fromOther : Bool := false

/-- When headings are shown. -/
inductive HeadingRule
  | forMany
  | always
  | never
  deriving DecidableEq

/-- What is asked for; `mark` ends the lines. -/
structure PortionPlan where
  portion : Portion := {}
  headings : HeadingRule := .forMany
  mark : Char := '\n'

def shownInput (name : RawText) : RawText :=
  if name == standardInput then raw "standard input" else name

def headingOf (isFirst : Bool) (name : RawText) : RawText :=
  (if isFirst then [] else ['\n']) ++ raw "==> " ++ shownInput name ++ raw " <==\n"

def portionMessage (countsLines : Bool) : String :=
  if countsLines then "invalid number of lines" else "invalid number of bytes"

/-! ## Portions of texts -/

/-- The first part of a text that holds a number of lines, and how many lines are still missing. -/
def firstLines (mark : Char) : Nat → RawText → RawText → RawText × Nat
  | 0, out, _ => (out.reverse, 0)
  | count, out, [] => (out.reverse, count)
  | count + 1, out, c :: rest =>
    if c == mark then firstLines mark count (c :: out) rest
    else firstLines mark (count + 1) (c :: out) rest

/-- Prints the first lines or bytes of an open file and gives back what was read too much. -/
def printFirst (countsLines : Bool) (mark : Char) : Nat → Nat → Nat → Tool (Fallible Unit)
  | 0, _, _ => return .ok ()
  | _, 0, _ => return .ok ()
  | fuel + 1, count, number => do
    match ← ask (.read number (if countsLines then 8192 else min count 8192)) with
    | .error fault => return .error fault
    | .ok [] => return .ok ()
    | .ok text =>
      let (shown, left) :=
        if countsLines then firstLines mark count [] text
        else (text.take count, count - (text.take count).length)
      put shown
      if left = 0 then
        let _ ← ask (.giveBack number (text.length - shown.length))
        return .ok ()
      else printFirst countsLines mark fuel left number

/-- A text without its last lines or bytes. -/
def withoutLast (countsLines : Bool) (mark : Char) (count : Nat) (text : RawText) : RawText :=
  if countsLines then
    let lines := linesEndedBy mark text
    (lines.take (lines.length - count)).flatten
  else text.take (text.length - count)

/-- The end of a text, from some place on or of some length. -/
def lastPortion (portion : Portion) (mark : Char) (text : RawText) : RawText :=
  if portion.countsLines then
    let lines := linesEndedBy mark text
    (if portion.fromOther then lines.drop (portion.count - 1)
      else lines.drop (lines.length - portion.count)).flatten
  else if portion.fromOther then text.drop (portion.count - 1)
  else text.drop (text.length - portion.count)

def headOf (plan : PortionPlan) (number : Nat) : Tool (Fallible Unit) := do
  let portion := plan.portion
  if portion.fromOther then
    match ← readAll number with
    | .error fault => return .error fault
    | .ok text =>
      put (withoutLast portion.countsLines plan.mark portion.count text)
      return .ok ()
  else printFirst portion.countsLines plan.mark streamFuel portion.count number

def tailOf (plan : PortionPlan) (number : Nat) : Tool (Fallible Unit) := do
  match ← readAll number with
  | .error fault => return .error fault
  | .ok text =>
    put (lastPortion plan.portion plan.mark text)
    return .ok ()

/-! ## Files -/

/-- Shows a portion of every file. -/
def showPortions (showOf : Nat → Tool (Fallible Unit)) (hasHeadings : Bool) :
    List RawText → Bool → Tool Unit
  | [], _ => return
  | name :: names, isFirst => do
    let opened ← if name == standardInput then pure (.ok 0) else ask (.openFile name { reads := true })
    match opened with
    | .error fault =>
      say (raw "cannot open " ++ quoted name ++ raw " for reading: " ++ raw fault.description)
      setStatus 1
      showPortions showOf hasHeadings names isFirst
    | .ok number =>
      if hasHeadings then put (headingOf isFirst name)
      match ← showOf number with
      | .ok () => pure ()
      | .error fault =>
        say (raw "error reading " ++ quoted (shownInput name) ++ raw ": " ++ raw fault.description)
        setStatus 1
      InputStream.closeInput number
      showPortions showOf hasHeadings names false

def PortionPlan.show (plan : PortionPlan) (showOf : PortionPlan → Nat → Tool (Fallible Unit))
    (operands : List RawText) : Tool Unit := do
  let names := inputNames operands
  let hasHeadings :=
    match plan.headings with
    | .always => true
    | .never => false
    | .forMany => 1 < names.length
  showPortions (showOf plan) hasHeadings names true

/-! ## Options -/

def portionRules : List OptionRule :=
  letterRules "0123456789" ++
    [{ key := "c", letters := "c", name := "bytes", argument := .required },
      { key := "n", letters := "n", name := "lines", argument := .required },
      { key := "q", letters := "q", name := "quiet" }, { key := "q", name := "silent" },
      { key := "v", letters := "v", name := "verbose" },
      { key := "z", letters := "z", name := "zero-terminated" }]

/-- The letters behind a count that is written right behind a dash: the plan, and the unit of the
count. -/
def readTrailingLetters (plan : PortionPlan) (unit : RawText) :
    RawText → Tool (PortionPlan × RawText)
  | [] => return (plan, unit)
  | c :: rest => do
    let counting := fun (countsLines : Bool) =>
      { plan with portion := { plan.portion with countsLines := countsLines } }
    match c with
    | 'c' => readTrailingLetters (counting false) [] rest
    | 'b' | 'k' | 'm' => readTrailingLetters (counting false) [c] rest
    | 'l' => readTrailingLetters (counting true) unit rest
    | 'q' => readTrailingLetters { plan with headings := .never } unit rest
    | 'v' => readTrailingLetters { plan with headings := .always } unit rest
    | 'z' => readTrailingLetters { plan with mark := '\x00' } unit rest
    | _ => misuse 1 (raw "invalid trailing option -- " ++ [c])

/-- The plan of the older way of asking for a count at the start, and the other arguments. -/
def readLeadingCount (arguments : List RawText) : Tool (PortionPlan × List RawText) := do
  match arguments with
  | ('-' :: c :: cs) :: rest =>
    if !c.isDigit then return ({}, arguments)
    let digits := (c :: cs).takeWhile Char.isDigit
    let (plan, unit) ← readTrailingLetters {} [] ((c :: cs).drop digits.length)
    let count ← countAmount (portionMessage plan.portion.countsLines) (digits ++ unit)
    return ({ plan with portion := { plan.portion with count := count } }, rest)
  | _ => return ({}, arguments)

/-- Takes an option that both tools have into account; `mark` asks for the other end. -/
def PortionPlan.take (plan : PortionPlan) (mark : Char) (key : String) (value : RawText) :
    Tool PortionPlan := do
  match key with
  | "c" | "n" =>
    let countsLines := key == "n"
    let asksOther := value.head? == some mark
    let digits := if value.head? == some '-' then value.drop 1 else value
    let count ← countAmount (portionMessage countsLines) digits
    let fromOther := if mark == '+' then plan.portion.fromOther || asksOther else asksOther
    return { plan with portion := ⟨countsLines, count, fromOther⟩ }
  | "q" => return { plan with headings := .never }
  | "v" => return { plan with headings := .always }
  | "z" => return { plan with mark := '\x00' }
  | _ => return plan

def runHead (arguments : List RawText) : Tool Unit := do
  let (plan, arguments) ← readLeadingCount arguments
  let options ← readOptions 1 portionRules arguments
  let plan ← options.given.foldlM
    (fun plan (key, value) => do
      if key.toList.all Char.isDigit then misuse 1 (raw "invalid trailing option -- " ++ key.toList)
      plan.take '-' key value)
    plan
  plan.show headOf options.operands

/-- The older way of asking for a count at the end: the plan, if the arguments are of that form. -/
def readOlderEnd? (arguments : List RawText) : Tool (Option PortionPlan) := do
  let isAlone :=
    match arguments with
    | [_] => true
    | [_, word] => word == ['-', '-'] || !(word.head? == some '-' && 1 < word.length)
    | [_, word, _] => word == ['-', '-']
    | _ => false
  match arguments with
  | (sign :: text) :: _ =>
    let isCount := sign == '+' ||
      (sign == '-' && !text.isEmpty && !(text.head? == some 'c' && text.length == 1))
    if !isAlone || !isCount then return none
    let digits := text.takeWhile Char.isDigit
    let (countsLines, factor, rest) :=
      match text.drop digits.length with
      | 'b' :: rest => (false, 512, rest)
      | 'c' :: rest => (false, 1, rest)
      | 'l' :: rest => (true, 1, rest)
      | rest => (true, 1, rest)
    let rest := if rest.head? == some 'f' then rest.drop 1 else rest
    if !rest.isEmpty then return none
    let count := if digits.isEmpty then 10 * factor else readInBase 10 digits * factor
    return some { portion := ⟨countsLines, count, sign == '+'⟩ }
  | _ => return none

def tailRules : List OptionRule :=
  portionRules ++
    [{ key := "f", letters := "f" }, { key := "F", letters := "F" },
      { key := "f", name := "follow", argument := .possible }, { key := "retry", name := "retry" },
      { key := "s", letters := "s", name := "sleep-interval", argument := .required },
      { key := "pid", name := "pid", argument := .required },
      { key := "unchanged", name := "max-unchanged-stats", argument := .required }]

def runTail (arguments : List RawText) : Tool Unit := do
  match ← readOlderEnd? arguments with
  | some plan =>
    plan.show tailOf ((arguments.drop 1).filter fun word => word != ['-', '-'])
  | none =>
    let options ← readOptions 1 tailRules arguments
    let plan ← options.given.foldlM
      (fun plan (key, value) => do
        if key.toList.all Char.isDigit then
          fail 1 (raw "option used in invalid context -- " ++ key.toList)
        plan.take '+' key value)
      ({} : PortionPlan)
    if plan.portion.count = 0 && !plan.portion.fromOther then return
    plan.show tailOf options.operands

end KeyJoin.Tools
