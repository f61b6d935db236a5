import KeyJoin.Tools.Options
import KeyJoin.Tools.RegexSyntax
import KeyJoin.Tools.Stream

/-!
# Searching for lines

A tool that selects the lines of its input in which one of several expressions
matches, and prints them, their matching parts, their number, or the names of
the files that hold some.  Lines around a selected line can be printed with it.
-/

namespace KeyJoin.Tools

open Tool

def searchRules : List OptionRule :=
  letterRules "bEFGPivwxclLqsonHhraTzZ" ++
    [{ key := "E", name := "extended-regexp" }, { key := "F", name := "fixed-strings" },
      { key := "G", name := "basic-regexp" }, { key := "P", name := "perl-regexp" },
      { key := "i", letters := "y", name := "ignore-case" },
      { key := "v", name := "invert-match" }, { key := "w", name := "word-regexp" },
      { key := "x", name := "line-regexp" }, { key := "c", name := "count" },
      { key := "l", name := "files-with-matches" }, { key := "L", name := "files-without-match" },
      { key := "q", name := "quiet" }, { key := "q", name := "silent" },
      { key := "s", name := "no-messages" }, { key := "o", name := "only-matching" },
      { key := "n", name := "line-number" }, { key := "H", name := "with-filename" },
      { key := "h", name := "no-filename" }, { key := "b", name := "byte-offset" },
      { key := "a", name := "text" }, { key := "buffered", name := "line-buffered" },
      { key := "e", letters := "e", name := "regexp", argument := .required },
      { key := "f", letters := "f", name := "file", argument := .required },
      { key := "m", letters := "m", name := "max-count", argument := .required },
      { key := "A", letters := "A", name := "after-context", argument := .required },
      { key := "B", letters := "B", name := "before-context", argument := .required },
      { key := "C", letters := "C", name := "context", argument := .required },
      { key := "label", name := "label", argument := .required },
      { key := "color", name := "color", argument := .possible },
      { key := "color", name := "colour", argument := .possible }]

/-- How lines are searched and what is printed of them. -/
structure SearchPlan where
  regex : Regex
  isInverted : Bool
  needsWord : Bool
  showsParts : Bool
  counts : Bool
  listsMatched : Bool
  listsUnmatched : Bool
  isQuiet : Bool
  numbersLines : Bool
  showsOffsets : Bool
  isText : Bool
  limit : Option Nat
  linesBefore : Nat
  linesAfter : Nat
  hasContext : Bool

namespace SearchPlan

/-- Whether no word goes on over an end of a match. -/
def isWordMatch (subject : Subject) (found : RegexMatch) : Bool :=
  !(found.first != 0 && subject.isWordAt (found.first - 1)) && !subject.isWordAt found.last

def find? (plan : SearchPlan) (subject : Subject) (place : Nat) : Option RegexMatch :=
  if plan.needsWord then
    (List.range' place (subject.text.size + 1 - place)).findSome? fun i =>
      (plan.regex.matchesAt subject i).find? (isWordMatch subject)
  else plan.regex.findFrom? subject place

/-- The parts of a line that match and are not empty, with their places. -/
def parts (plan : SearchPlan) (subject : Subject) : Nat → Nat → List (Nat × RawText)
  | 0, _ => []
  | fuel + 1, place =>
    match plan.find? subject place with
    | none => []
    | some found =>
      if found.last ≤ found.first then plan.parts subject fuel (found.last + 1)
      else (found.first, found.groupText subject 0) :: plan.parts subject fuel found.last

/-- Whether printing goes on after the first selected line. -/
def printsLines (plan : SearchPlan) : Bool :=
  !(plan.counts || plan.listsMatched || plan.listsUnmatched || plan.isQuiet)

end SearchPlan

/-- What is known while a file is searched: the number and the offset of the next line, the lines
that may still be printed as those before a selected one, how many are to be printed after the last
selected one, and the number of the last line printed. -/
structure SearchState where
  number : Nat := 1
  offset : Nat := 0
  selected : Nat := 0
  before : List (Nat × Nat × RawText) := []
  after : Nat := 0
  lastShown : Option Nat := none
  isBinary : Bool := false

/-- Prints what stands in front of a line. -/
def linePrefix (plan : SearchPlan) (label : Option RawText) (mark : Char) (number offset : Nat) :
    RawText :=
  (match label with
    | some name => name ++ [mark]
    | none => []) ++
    (if plan.numbersLines then naturalText number ++ [mark] else []) ++
    if plan.showsOffsets then naturalText offset ++ [mark] else []

def showSelected (plan : SearchPlan) (label : Option RawText) (state : SearchState)
    (body : RawText) : Tool Unit := do
  if plan.showsParts then
    if !plan.isInverted then
      let subject := Subject.ofText body
      for (place, part) in plan.parts subject (body.length + 2) 0 do
        putLine (linePrefix plan label ':' state.number (state.offset + place) ++ part)
  else
    putLine (linePrefix plan label ':' state.number state.offset ++ body)

/-- Prints the mark between groups of lines that do not touch. -/
def separateGroups (plan : SearchPlan) (hasShown : Bool) (state : SearchState) (first : Nat) :
    Tool Unit := do
  let isApart :=
    match state.lastShown with
    | some last => decide (last + 1 < first)
    | none => hasShown
  if plan.hasContext && isApart then putLine (raw "--")

/-- Searches one line; the answer tells whether the search goes on. -/
def searchLine (plan : SearchPlan) (label : Option RawText) (name : RawText) (hasShown : Bool)
    (state : SearchState) (line : RawText) : Tool (SearchState × Bool) := do
  let body := lineBody line
  let state := { state with isBinary := state.isBinary || (!plan.isText && body.contains '\x00') }
  let isSelected := (plan.find? (.ofText body) 0).isSome != plan.isInverted
  let advance := fun (state : SearchState) =>
    { state with number := state.number + 1, offset := state.offset + line.length }
  let isSpent := plan.limit.any (· ≤ state.selected)
  if isSelected && !isSpent then
    let state := { state with selected := state.selected + 1 }
    if plan.isQuiet || plan.listsMatched || plan.listsUnmatched then return (state, false)
    let isLast := plan.limit.any (· ≤ state.selected)
    if plan.printsLines then
      if state.isBinary then
        say (name ++ raw ": binary file matches")
        return (state, false)
      let shown := state.before.reverse
      separateGroups plan hasShown state ((shown.head?.map (·.1)).getD state.number)
      if !plan.showsParts then
        for (number, offset, text) in shown do
          putLine (linePrefix plan label '-' number offset ++ text)
      showSelected plan label state body
      let state :=
        { state with before := [], after := plan.linesAfter, lastShown := some state.number }
      return (advance state, !isLast || 0 < plan.linesAfter)
    else return (advance state, !isLast)
  else if isSpent && (isSelected || state.after = 0) then return (state, false)
  else if 0 < state.after && plan.printsLines then
    if !plan.showsParts then
      putLine (linePrefix plan label '-' state.number state.offset ++ body)
    return (advance { state with
      after := state.after - 1, lastShown := some state.number, before := [] }, true)
  else
    let before := (state.number, state.offset, body) :: state.before
    return (advance { state with before := before.take plan.linesBefore }, true)

/-- Searches one open file, and prints the counts and names that are asked for. -/
def searchOpened (plan : SearchPlan) (label : Option RawText) (name : RawText) (hasShown : Bool)
    (number : Nat) : Tool (Bool × Bool) := do
  let stream : InputStream := { names := [], opened := name, current := some number }
  let state ←
    if plan.limit == some 0 then pure {}
    else foldLines (searchLine plan label name hasShown) streamFuel {} stream
  if number != 0 then
    let _ ← ask (.close number)
  let isFound := state.selected != 0
  if !plan.isQuiet then
    if plan.counts then
      let shown := (label.map fun label => label ++ [':']).getD []
      putLine (shown ++ naturalText state.selected)
    if plan.listsMatched && isFound then putLine name
    if plan.listsUnmatched && !isFound then putLine name
  return (if plan.listsUnmatched then !isFound else isFound, hasShown || state.lastShown.isSome)

/-- Searches files one after the other; the answer tells whether a line was selected. -/
def searchFiles (plan : SearchPlan) (labels isSilent : Bool) (inputName : RawText) :
    List RawText → Bool → Bool → Bool → Tool (Bool × Bool)
  | [], isFound, hasFault, _ => return (isFound, hasFault)
  | name :: names, isFound, hasFault, hasShown => do
    let opened ←
      if name == standardInput then pure (.ok 0) else ask (.openFile name { reads := true })
    match opened with
    | .error fault =>
      if !isSilent then say (name ++ raw ": " ++ raw fault.description)
      searchFiles plan labels isSilent inputName names isFound true hasShown
    | .ok number =>
      let shown := if name == standardInput then inputName else name
      let (hasMatch, hasShown) ←
        searchOpened plan (if labels then some shown else none) shown hasShown number
      if hasMatch && plan.isQuiet then exit 0
      searchFiles plan labels isSilent inputName names (isFound || hasMatch) hasFault hasShown

/-- The words in front, with a number for context written as the option for it. -/
def withContextOption : List RawText → List RawText
  | [] => []
  | word :: rest =>
    match word with
    | ['-', '-'] => word :: rest
    | '-' :: c :: cs =>
      if (c :: cs).all Char.isDigit then raw "-C" :: (c :: cs) :: withContextOption rest
      else word :: withContextOption rest
    | _ => word :: withContextOption rest

/-- The expression that matches where one of several patterns does. -/
def patternsRegex (rules : RegexNotation) (isFixed : Bool) (patterns : List RawText) :
    Except RegexFault Regex := do
  let choices ← patterns.mapM fun pattern =>
    if isFixed then pure (Regex.exactly rules.ignoresCase pattern)
    else do return (← Regex.read rules pattern).1
  match choices.reverse with
  | [] => return .one { ranges := [] }
  | last :: before => return before.foldl (fun rest choice => .choice choice rest) last

def runSearchWith (isExtended isFixed : Bool) (arguments : List RawText) : Tool Unit := do
  modify fun state =>
    { state with
      usage := raw "Usage: " ++ state.name ++ raw " [OPTION]... PATTERNS [FILE]...\n" }
  let options ← readOptions 2 searchRules (withContextOption arguments)
  let fromFiles ← (options.values "f").mapM fun name => do
    match ← readFile name with
    | .ok text => return plainLines text
    | .error fault => fail 2 (name ++ raw ": " ++ raw fault.description)
  let (patterns, names) ←
    if options.has "e" || options.has "f" then
      pure ((options.values "e").flatMap (splitAtAll '\n') ++ fromFiles.flatten, options.operands)
    else
      match options.operands with
      | [] => misuse 2 []
      | pattern :: names => pure (splitAtAll '\n' pattern, names)
  let count := fun (key : String) => do
    match options.value? key with
    | none => pure none
    | some text =>
      match natural? text with
      | some n => pure (some n)
      | none =>
        if key == "m" then fail 2 (raw "invalid max count")
        else fail 2 (text ++ raw ": invalid context length argument")
  let around ← count "C"
  let kind := options.lastOf ["E", "F", "G", "P"]
  let rules : RegexNotation :=
    { isExtended := (kind.map fun kind => kind == "E" || kind == "P").getD isExtended
      isLenient := true
      ignoresCase := options.has "i" }
  let isFixed := (kind.map (· == "F")).getD isFixed
  match patternsRegex rules isFixed patterns with
  | .error fault => fail 2 (raw fault.description)
  | .ok regex =>
    let regex :=
      if options.has "x" then
        .sequence (.edge .textStart) (.sequence regex (.edge .textEnd))
      else regex
    let before := ((← count "B").or around).getD 0
    let after := ((← count "A").or around).getD 0
    let plan : SearchPlan :=
      { regex := regex
        isInverted := options.has "v"
        needsWord := options.has "w" && !options.has "x"
        showsParts := options.has "o"
        counts := options.has "c"
        listsMatched := options.has "l"
        listsUnmatched := options.has "L"
        isQuiet := options.has "q"
        numbersLines := options.has "n"
        showsOffsets := options.has "b"
        isText := options.has "a"
        limit := ← count "m"
        linesBefore := before
        linesAfter := after
        hasContext := 0 < before || 0 < after }
    let labels :=
      match options.lastOf ["H", "h"] with
      | some "H" => true
      | some _ => false
      | none => 1 < names.length
    let inputName := (options.value? "label").getD (raw "(standard input)")
    let (isFound, hasFault) ←
      searchFiles plan labels (options.has "s") inputName (inputNames names) false false false
    let hasFault := hasFault || (← get).status != 0
    flush
    exit (if hasFault then 2 else if isFound then 0 else 1)

def runSearch : List RawText → Tool Unit :=
  runSearchWith false false

def runExtendedSearch : List RawText → Tool Unit :=
  runSearchWith true false

def runFixedSearch : List RawText → Tool Unit :=
  runSearchWith false true

end KeyJoin.Tools
