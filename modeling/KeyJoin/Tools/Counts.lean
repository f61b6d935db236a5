import KeyJoin.Tools.Options
import KeyJoin.Tools.Stream

/-!
# Counts of lines, words and bytes

A tool counts the lines, words and bytes of files and tells the width of their
longest line.  A word is a run of printable bytes between white space; other
bytes neither begin nor end one.
-/

namespace KeyJoin.Tools

open Tool

structure TextCounts where
  lines : Nat := 0
  words : Nat := 0
  bytes : Nat := 0
  widest : Nat := 0

def TextCounts.add (a b : TextCounts) : TextCounts :=
  ⟨a.lines + b.lines, a.words + b.words, a.bytes + b.bytes, max a.widest b.widest⟩

/-- What is known of a text up to some place. -/
structure CountState where
  counts : TextCounts := {}
  column : Nat := 0
  inWord : Bool := false

namespace CountState

def endWord (state : CountState) : CountState :=
  { state with
    inWord := false
    counts := { state.counts with
      words := if state.inWord then state.counts.words + 1 else state.counts.words } }

def endLine (state : CountState) : CountState :=
  { state with
    column := 0, counts := { state.counts with widest := max state.counts.widest state.column } }

def step (state : CountState) (c : Char) : CountState :=
  let state := { state with counts := { state.counts with bytes := state.counts.bytes + 1 } }
  match c with
  | '\n' =>
    { state with counts := { state.counts with lines := state.counts.lines + 1 } }.endLine.endWord
  | '\x0d' | '\x0c' => state.endLine.endWord
  | '\t' => { state with column := state.column + 8 - state.column % 8 }.endWord
  | ' ' => { state with column := state.column + 1 }.endWord
  | '\x0b' => state.endWord
  | c => if isPrintByte c then { state with column := state.column + 1, inWord := true } else state

end CountState

def countText (text : RawText) : TextCounts :=
  (text.foldl CountState.step {}).endLine.endWord.counts

def countRules : List OptionRule :=
  [{ key := "l", letters := "l", name := "lines" }, { key := "w", letters := "w", name := "words" },
    { key := "c", letters := "c", name := "bytes" }, { key := "m", letters := "m", name := "chars" },
    { key := "L", letters := "L", name := "max-line-length" }, { key := "debug", name := "debug" },
    { key := "files", name := "files0-from", argument := .required },
    { key := "total", name := "total", argument := .required }]

/-- The width of the counts: that of the sizes of all files, and more where a size is not known. -/
def countWidth (names : List RawText) : Tool Nat := do
  let mut total := 0
  let mut least := 1
  for name in names do
    let status ← if name == standardInput then ask (.statusOfOpen 0) else ask (.statusOf name true)
    match status with
    | .ok status => if status.kind == .regular then total := total + status.size else least := 7
    | .error _ => pure ()
  return max least (naturalText total).length

/-- The names that a file holds, each ended by a byte of zero. -/
def namesListedIn (name : RawText) : Tool (List RawText) := do
  match ← readFile name with
  | .error fault =>
    fail 1 (raw "cannot open " ++ quoted name ++ raw " for reading: " ++ raw fault.description)
  | .ok text =>
    if text.isEmpty then return []
    return splitAtAll '\x00' (if text.getLast? == some '\x00' then text.dropLast else text)

/-- When the sums of all counts are shown. -/
inductive TotalRule
  | forMany
  | always
  | only
  | never
  deriving DecidableEq

def readTotalRule (word : Option RawText) : Tool TotalRule := do
  match word with
  | none => return .forMany
  | some word =>
    match ← readWord 1 "--total" [["auto"], ["always"], ["only"], ["never"]] word with
    | "always" => return .always
    | "only" => return .only
    | "never" => return .never
    | _ => return .forMany

/-- Shows counts under the keys of options; the name is shown behind them. -/
def countLine (keys : List String) (width : Nat) (counts : TextCounts) (name : RawText) : RawText :=
  let numbers := keys.map fun key =>
    match key with
    | "l" => counts.lines
    | "w" => counts.words
    | "L" => counts.widest
    | _ => counts.bytes
  let shown := [' '].intercalate (numbers.map fun n => padLeft width (naturalText n))
  if name.isEmpty then shown else shown ++ ' ' :: name

def runCount (arguments : List RawText) : Tool Unit := do
  let options ← readOptions 1 countRules arguments
  let rule ← readTotalRule (options.value? "total")
  let keys := ["l", "w", "m", "c", "L"].filter options.has
  let keys := if keys.isEmpty then ["l", "w", "c"] else keys
  let listed ←
    match options.value? "files", options.operands with
    | some _, operand :: _ => do
      say (raw "extra operand " ++ quoted operand)
      sayPlainly (raw "file operands cannot be combined with --files0-from\n")
      misuse 1 []
    | some source, [] => some <$> namesListedIn source
    | none, _ => pure none
  let names := listed.getD (inputNames options.operands)
  let width ←
    if rule == .only || (names.length = 1 && keys.length = 1) || options.has "files" then pure 1
    else countWidth names
  let mut total : TextCounts := {}
  for (name, i) in names.zipIdx do
    let shown := if listed.isNone && options.operands.isEmpty then [] else shownInLine name
    let source := options.value? "files"
    if source == some standardInput && name == standardInput then
      say (raw "when reading file names from stdin, no file name of '-' allowed")
      setStatus 1
    else if name.isEmpty then
      let place := match source with
        | some source => shownName source ++ ':' :: naturalText (i + 1) ++ raw ": "
        | none => []
      say (place ++ raw "invalid zero-length file name")
      setStatus 1
    else
      match ← readFile name with
      | .ok text =>
        let counts := countText text
        total := total.add counts
        if rule != .only then putLine (countLine keys width counts shown)
      | .error fault =>
        sayFault name fault
        setStatus 1
        if fault == .isADirectory && rule != .only then putLine (countLine keys width {} shown)
  let showsTotal :=
    match rule with
    | .never => false
    | .forMany => 1 < names.length
    | .always | .only => true
  if showsTotal then
    putLine (countLine keys width total (if rule == .only then [] else raw "total"))
where
  shownInLine (name : RawText) : RawText :=
    if name.contains '\n' then shownName name else name

end KeyJoin.Tools
