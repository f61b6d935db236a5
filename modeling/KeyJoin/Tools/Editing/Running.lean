import KeyJoin.Tools.Editing.Reading
import KeyJoin.Tools.Options
import KeyJoin.Tools.Stream

/-!
# Editing lines

A tool that carries out a script for each line of its input.  What the work
space holds at the end of the script is printed, unless the script is silent;
text that was queued comes after it.  The last line is printed without a line
feed if it was read without one.
-/

namespace KeyJoin.Tools.Editing

open Tool

/-- Text that is printed when the next line is read. -/
inductive Queued
  | text (text : RawText)
  | file (name : RawText)
  | line (text : RawText)

/-- Where a range that has begun ends: at a line, or where an address is met. -/
inductive OpenRange
  | untilLine (number : Nat)
  | untilAddress (address : Address)

structure EditState where
  script : Script
  isSilent : Bool
  width : Nat
  mark : Char
  stream : InputStream
  ahead : List RawText := []
  space : RawText := []
  isEnded : Bool := true
  kept : RawText := []
  keptIsEnded : Bool := true
  number : Nat := 0
  ranges : List (Nat × OpenRange) := []
  lastPattern : Option LinePattern := none
  isReplaced : Bool := false
  queue : List Queued := []
  lacksEnd : Bool := false
  outputs : List (RawText × Nat) := []
  sources : List (RawText × InputStream) := []
  captured : Option (List RawText) := none

abbrev Edit := StateT EditState Tool

namespace Edit

/-! ## Printing -/

def emit (text : RawText) : Edit Unit := do
  match (← get).captured with
  | none => Tool.put text
  | some pieces => modify fun state => { state with captured := some (text :: pieces) }

/-- Prints the line feed that the last line lacked. -/
def completeLine : Edit Unit := do
  let state ← get
  if state.lacksEnd then
    set { state with lacksEnd := false }
    emit [state.mark]

def putText (text : RawText) : Edit Unit := do
  completeLine
  emit text

/-- Prints a text as a line, without the end that the line read last lacked. -/
def putSpace (text : RawText) : Edit Unit := do
  completeLine
  let state ← get
  if state.isEnded then emit (text ++ [state.mark])
  else
    emit text
    set { state with lacksEnd := true }

/-- Writes a line to one of the files of the script. -/
def writeTo (name text : RawText) : Edit Unit := do
  let state ← get
  if name == raw "/dev/stdout" then emit (if state.isEnded then text ++ [state.mark] else text)
  else
    match state.outputs.lookup name with
    | some number =>
      if name == raw "/dev/stderr" then Tool.flush
      let _ ← (Tool.ask (.write number (if state.isEnded then text ++ [state.mark] else text)) :
        Tool _)
    | none => return

/-! ## Input -/

/-- Looks at the next line without taking it. -/
def peek : Edit (Option RawText) := do
  match (← get).ahead with
  | line :: _ => return some line
  | [] =>
    let (line, stream) ← (takeLine (← get).stream : Tool _)
    modify fun state => { state with stream := stream, ahead := line.toList }
    return line

/-- Prints what was queued. -/
def releaseQueue : Edit Unit := do
  let queue := (← get).queue
  modify fun state => { state with queue := [] }
  for item in queue do
    completeLine
    match item with
    | .text text => emit text
    | .line text => emit (text ++ ['\n'])
    | .file name =>
      match ← (Tool.readFile (if name == raw "/dev/stdin" then Tool.standardInput else name) :
          Tool _) with
      | .ok text => emit text
      | .error _ => pure ()

/-- Takes the next line into `store`; tells whether there was one. -/
def readNext (store : RawText → EditState → EditState) : Edit Bool := do
  releaseQueue
  match ← peek with
  | none => return false
  | some line =>
    modify fun state =>
      let isEnded := line.getLast? == some state.mark
      let body := if isEnded then line.dropLast else line
      store body { state with ahead := [], number := state.number + 1, isEnded := isEnded }
    return true

/-! ## Selectors -/

def refuse {α : Type} (message : String) : Edit α :=
  (Tool.fail 1 (raw "-e expression #1, char 0: " ++ raw message) : Tool α)

/-- The pattern that is meant, which is then the one used last. -/
def usePattern (pattern? : Option LinePattern) : Edit LinePattern := do
  match pattern?.or (← get).lastPattern with
  | some pattern =>
    modify fun state => { state with lastPattern := some pattern }
    return pattern
  | none => refuse "no previous regular expression"

def subjectFor (pattern : LinePattern) (text : RawText) : Subject :=
  { text := text.toArray, isLinewise := pattern.isLinewise }

def isLastLine : Edit Bool := do
  return (← peek).isNone

def meets (address : Address) : Edit Bool := do
  match address with
  | .line number => return (← get).number == number
  | .last => isLastLine
  | .row first step =>
    let number := (← get).number
    return if step = 0 then number == first
      else decide (first ≤ number) && (number - first) % step == 0
  | .pattern pattern? =>
    let pattern ← usePattern pattern?
    return (pattern.regex.findFrom? (subjectFor pattern (← get).space) 0).isSome

def setRange (place : Nat) (range : Option OpenRange) : Edit Unit :=
  modify fun state =>
    { state with
      ranges := (range.toList.map fun range => (place, range)) ++
        state.ranges.filter fun entry => entry.1 != place }

/-- Begins a range at the current line, unless it ends there. -/
def beginRange (place : Nat) (last : RangeEnd) : Edit Unit := do
  let number := (← get).number
  let untilLine := fun (last : Nat) => if number < last then some (OpenRange.untilLine last) else none
  match last with
  | .address (.line last) => setRange place (untilLine last)
  | .address address => setRange place (some (.untilAddress address))
  | .after count => setRange place (untilLine (number + count))
  | .multiple 0 => return
  | .multiple n => setRange place (untilLine ((number + n - 1) / n * n))

/-- The ranges that have begun before the first line. -/
def earlyRanges (script : Script) : List (Nat × OpenRange) :=
  script.instructions.toList.zipIdx.filterMap fun (instruction, place) =>
    match instruction.selector.first, instruction.selector.last with
    | some (.line 0), some (.address address) => some (place, .untilAddress address)
    | _, _ => none

/-- Whether a selector without its negation selects the current line. -/
def isInRange (place : Nat) (selector : Selector) : Edit Bool := do
  match selector.first, selector.last with
  | none, _ => return true
  | some first, none => meets first
  | some first, some last =>
    match (← get).ranges.lookup place with
    | some (.untilLine end_) =>
      let number := (← get).number
      if end_ ≤ number then setRange place none
      if number ≤ end_ then return true
      else if ← meets first then
        beginRange place last
        return true
      else return false
    | some (.untilAddress address) =>
      if ← meets address then setRange place none
      return true
    | none =>
      if ← meets first then
        beginRange place last
        return true
      else return false

def selects (place : Nat) (selector : Selector) : Edit Bool := do
  return (← isInRange place selector) != selector.isNegated

/-! ## Substitution -/

/-- Puts a text in the case that is asked for all of it and for its next character. -/
def inCase (all next : LetterCase) (text : RawText) : RawText :=
  let change := fun (letterCase : LetterCase) (c : Char) =>
    match letterCase with
    | .unchanged => c
    | .lower => c.toLower
    | .upper => c.toUpper
  match text with
  | [] => []
  | c :: cs => change (if next == .unchanged then all else next) c :: cs.map (change all)

/-- The text that replaces a match. -/
def replacementText (subject : Subject) (found : RegexMatch) (parts : List ReplacementPart) : RawText :=
  (parts.foldl
    (fun (state : RawText × LetterCase × LetterCase) part =>
      let (out, all, next) := state
      let put := fun (text : RawText) =>
        (out ++ inCase all next text, all, if text.isEmpty then next else .unchanged)
      match part with
      | .text text => put text
      | .group number => put (found.groupText subject number)
      | .allCase letterCase => (out, letterCase, .unchanged)
      | .nextCase letterCase => (out, all, letterCase))
    ([], .unchanged, .unchanged)).1

/-- Replaces matches from a place on; what comes before stands backwards in pieces.  An empty match
right behind another one is left out. -/
def replaceFrom (regex : Regex) (subject : Subject) (isGlobal : Bool) (occurrence : Nat)
    (textFor : RegexMatch → RawText) :
    Nat → Nat → Nat → Option Nat → List RawText → Bool → RawText × Bool
  | 0, place, _, _, out, isReplaced =>
    ((subject.text.toList.drop place :: out).reverse.flatten, isReplaced)
  | fuel + 1, place, count, before, out, isReplaced =>
    let between := fun (first last : Nat) => (subject.text.extract first last).toList
    let finish := fun (place : Nat) (out : List RawText) (isReplaced : Bool) =>
      ((between place subject.text.size :: out).reverse.flatten, isReplaced)
    let goOn := replaceFrom regex subject isGlobal occurrence textFor fuel
    match if place ≤ subject.text.size then regex.findFrom? subject place else none with
    | none => finish place out isReplaced
    | some found =>
      let out := between place found.first :: out
      let isEmpty := found.first == found.last
      let next := if isEmpty then found.last + 1 else found.last
      let skipped := if isEmpty then between found.last next else []
      if isEmpty && before == some found.first then
        goOn next count none (skipped :: out) isReplaced
      else if count + 1 < occurrence then
        goOn next (count + 1) (some found.last) (skipped :: between found.first found.last :: out)
          isReplaced
      else
        let out := textFor found :: out
        if isGlobal then goOn next (count + 1) (some found.last) (skipped :: out) true
        else finish found.last out true

def substitute (substitution : Substitution) : Edit Unit := do
  let pattern ← usePattern substitution.pattern
  let space := (← get).space
  let subject := subjectFor pattern space
  let (text, isReplaced) :=
    replaceFrom pattern.regex subject substitution.isGlobal substitution.occurrence
      (fun found => replacementText subject found substitution.replacement)
      (space.length + 2) 0 0 none [] false
  if isReplaced then
    modify fun state => { state with space := text, isReplaced := true }
    if substitution.prints then putSpace text
    match substitution.output with
    | some name => writeTo name text
    | none => return

/-! ## Commands -/

/-- A text with its unprintable characters as escapes, in lines of a width. -/
def listedText (width : Nat) (text : RawText) : RawText :=
  let shown := fun (c : Char) =>
    match c with
    | '\\' => ['\\', '\\']
    | '\x07' => ['\\', 'a']
    | '\x08' => ['\\', 'b']
    | '\x0c' => ['\\', 'f']
    | '\n' => ['\\', 'n']
    | '\x0d' => ['\\', 'r']
    | '\t' => ['\\', 't']
    | '\x0b' => ['\\', 'v']
    | c => if isPrintByte c then [c] else '\\' :: padZeros 3 (digitsInBase 8 c.toNat)
  let (out, _) := text.foldl
    (fun (out, column) c =>
      let piece := shown c
      if 0 < width && width - 1 < column + piece.length && 0 < column then
        (piece :: ['\\', '\n'] :: out, piece.length)
      else (piece :: out, column + piece.length))
    (([] : List RawText), 0)
  out.reverse.flatten ++ ['$', '\n']

/-- What follows a command: the next instruction, another one, or the end of the cycle, with or
without printing, or without reading a new line. -/
inductive After
  | next
  | goTo (place : Nat)
  | endCycle (prints : Bool)
  | again
  | quit (status : Nat) (prints : Bool)

def lineFeedPlace (text : RawText) : Option Nat :=
  text.findIdx? (· == '\n')

def takeSource (name : RawText) : Edit (Option RawText) := do
  let stream := ((← get).sources.lookup name).getD
    { names := [name], onFault := fun _ _ => return }
  match ← (Tool.ask (.statusOf name true) : Tool _) with
  | .error _ => return none
  | .ok _ =>
    let (line, stream) ← (takeLine stream : Tool _)
    modify fun state =>
      { state with
        sources := (name, stream) :: state.sources.filter fun entry => entry.1 != name }
    return line.map lineBody

def enqueue (item : Queued) : Edit Unit :=
  modify fun state => { state with queue := state.queue ++ [item] }

def carryOut (place : Nat) (selector : Selector) (command : Command) : Edit After := do
  let state ← get
  let setSpace := fun (text : RawText) => modify fun state => { state with space := text }
  match command with
  | .block _ | .nothing => return .next
  | .jump condition label =>
    let target := if label.isEmpty then state.script.instructions.size
      else (state.script.labels.lookup label).getD state.script.instructions.size
    match condition with
    | .always => return .goTo target
    | .ifReplaced =>
      set { state with isReplaced := false }
      return if state.isReplaced then .goTo target else .next
    | .unlessReplaced =>
      set { state with isReplaced := false }
      return if state.isReplaced then .next else .goTo target
  | .append text =>
    enqueue (.text text)
    return .next
  | .insert text =>
    putText text
    return .next
  | .change text =>
    let goesOn := (state.ranges.lookup place).isSome && !selector.isNegated
    if !goesOn then putText text
    return .endCycle false
  | .delete => return .endCycle false
  | .deleteFirst =>
    match lineFeedPlace state.space with
    | none => return .endCycle false
    | some n =>
      setSpace (state.space.drop (n + 1))
      return .again
  | .print =>
    putSpace state.space
    return .next
  | .printFirst =>
    if state.space.contains '\n' then putText (state.space.takeWhile (· != '\n') ++ [state.mark])
    else putSpace state.space
    return .next
  | .printNumber =>
    putText (naturalText state.number ++ ['\n'])
    return .next
  | .printName =>
    putText (state.stream.opened ++ ['\n'])
    return .next
  | .list width =>
    putText (listedText (width.getD state.width) state.space)
    return .next
  | .next =>
    if ← isLastLine then return .quit 0 true
    if !state.isSilent then putSpace state.space
    let _ ← readNext fun line state => { state with space := line }
    return .next
  | .appendNext =>
    if ← isLastLine then return .quit 0 true
    let _ ← readNext fun line state => { state with space := state.space ++ '\n' :: line }
    return .next
  | .quit status prints => return .quit status prints
  | .copyKept =>
    set { state with space := state.kept, isEnded := state.keptIsEnded }
    return .next
  | .appendKept =>
    set { state with
      space := state.space ++ '\n' :: state.kept, isEnded := state.keptIsEnded }
    return .next
  | .keep =>
    set { state with kept := state.space, keptIsEnded := state.isEnded }
    return .next
  | .keepMore =>
    set { state with kept := state.kept ++ '\n' :: state.space, keptIsEnded := state.isEnded }
    return .next
  | .exchange =>
    set { state with
      space := state.kept, isEnded := state.keptIsEnded
      kept := state.space, keptIsEnded := state.isEnded }
    return .next
  | .empty =>
    setSpace []
    return .next
  | .readFile name =>
    enqueue (.file name)
    return .next
  | .readLine name =>
    match ← takeSource name with
    | some line => enqueue (.line line)
    | none => pure ()
    return .next
  | .writeFile name =>
    writeTo name state.space
    return .next
  | .writeFirst name =>
    writeTo name (state.space.takeWhile (· != '\n'))
    return .next
  | .substitute substitution =>
    substitute substitution
    return .next
  | .transliterate table =>
    setSpace (state.space.map fun c => (table.lookup c).getD c)
    return .next

/-- Carries out the instructions from a place on, up to the end of the cycle. -/
def runFrom : Nat → Nat → Edit After
  | 0, _ => return .endCycle true
  | fuel + 1, place => do
    match (← get).script.instructions[place]? with
    | none => return .endCycle true
    | some instruction =>
      if ← selects place instruction.selector then
        match ← carryOut place instruction.selector instruction.command with
        | .next => runFrom fuel (place + 1)
        | .goTo target => runFrom fuel target
        | after => return after
      else
        match instruction.command with
        | .block after => runFrom fuel after
        | _ => runFrom fuel (place + 1)

/-- Goes through all lines; gives the status if the script ends before them. -/
def cycles : Nat → Bool → Edit (Option Nat)
  | 0, _ => return none
  | fuel + 1, reads => do
    if reads then
      let isRead ← readNext fun line state => { state with space := line, isReplaced := false }
      if !isRead then return none
    match ← runFrom fuel 0 with
    | .endCycle prints =>
      if prints && !(← get).isSilent then putSpace (← get).space
      cycles fuel true
    | .again =>
      releaseQueue
      cycles fuel false
    | .quit status prints =>
      if prints && !(← get).isSilent then putSpace (← get).space
      releaseQueue
      return some status
    | _ => return none

end Edit

/-! ## The tool -/

def editRules : List OptionRule :=
  [{ key := "n", letters := "n", name := "quiet" }, { key := "n", name := "silent" },
    { key := "e", letters := "e", name := "expression", argument := .required },
    { key := "f", letters := "f", name := "file", argument := .required },
    { key := "E", letters := "Er", name := "regexp-extended" },
    { key := "s", letters := "s", name := "separate" },
    { key := "i", letters := "i", name := "in-place", argument := .possible },
    { key := "l", letters := "l", name := "line-length", argument := .required },
    { key := "u", letters := "u", name := "unbuffered" },
    { key := "z", letters := "z", name := "null-data" }, { key := "posix", name := "posix" },
    { key := "debug", name := "debug" }, { key := "sandbox", name := "sandbox" }]

/-- Joins each expression that ends in a backslash with the next one. -/
def joinExpressions : List RawText → List RawText
  | [] => []
  | text :: rest =>
    match joinExpressions rest with
    | next :: others =>
      if text.getLast? == some '\\' then (text ++ '\n' :: next) :: others
      else text :: next :: others
    | [] => [text]

/-- The expressions of a script with how each is called in messages. -/
def expressionsOf (options : GivenOptions) : Tool (List (RawText × RawText) × List RawText) := do
  let number := fun (n : Nat) => raw "-e expression #" ++ naturalText n
  if options.has "e" || options.has "f" then
    if options.has "f" then
      let mut expressions := []
      for (key, value) in options.given do
        if key == "e" then expressions := expressions ++ [(number (expressions.length + 1), value)]
        else if key == "f" then
          match ← readFile value with
          | .ok text => expressions := expressions ++ [(raw "file " ++ value ++ raw " line 1", text)]
          | .error fault =>
            fail 1 (raw "couldn't open file " ++ value ++ raw ": " ++ raw fault.description)
      return (expressions, options.operands)
    else
      let texts := joinExpressions (options.values "e")
      return ((texts.zipIdx 1).map fun (text, n) => (number n, text), options.operands)
  else
    match options.operands with
    | [] =>
      sayPlainly (raw "Usage: " ++ (← get).name ++
        raw " [OPTION]... \x7bscript-only-if-no-other-script\x7d [input-file]...\n\n")
      exit 1
    | text :: names => return ([(number 1, text)], names)

/-- Goes on after a file that cannot be opened, and ends at one that cannot be read. -/
def sayReadFault (name : RawText) (fault : SystemFault) : Tool Unit := do
  if fault == .isADirectory then fail 4 (raw "read error on " ++ name ++ raw ": Is a directory")
  say (raw "can't read " ++ name ++ raw ": " ++ raw fault.description)
  setStatus 2

/-- The stream of some files; with another mark than the line feed they are read as a whole. -/
def editStream (mark : Char) (names : List RawText) : Tool InputStream := do
  if mark == '\n' then
    return { InputStream.ofNames names with onFault := sayReadFault }
  else
    let mut lines := []
    for name in inputNames names do
      match ← readFile name with
      | .ok text =>
        let parts := splitAtAll mark text
        let ended := parts.dropLast.map fun part => part ++ [mark]
        let last := parts.getLastD []
        lines := lines ++ ended ++ (if last.isEmpty then [] else [last])
      | .error fault => sayReadFault name fault
    return { names := [], lines := lines }

/-- Opens the files that a script writes to. -/
def openOutputs : List RawText → List (RawText × Nat) → Tool (List (RawText × Nat))
  | [], opened => return opened
  | name :: names, opened => do
    if (opened.lookup name).isSome || name == raw "/dev/stdout" then openOutputs names opened
    else
      match ← ask (.openFile name { writes := true, creates := true, truncates := true }) with
      | .ok number => openOutputs names ((name, number) :: opened)
      | .error fault =>
        fail 4 (raw "couldn't open file " ++ name ++ raw ": " ++ raw fault.description)

/-- The name of the copy that is kept of a file edited in place. -/
def backupName (suffix name : RawText) : RawText :=
  if suffix.contains '*' then
    suffix.flatMap fun c => if c == '*' then name else [c]
  else name ++ suffix

/-- Edits files one by one, each for itself. -/
def editSeparately (inPlace : Option RawText) : List RawText → EditState → Tool Unit
  | [], _ => return
  | name :: names, state => do
    let stream ← editStream state.mark [name]
    let isReadable ←
      match inPlace with
      | none => pure true
      | some _ =>
        match ← ask (.statusOf name true) with
        | .ok status =>
          if status.kind == .regular then pure true
          else
            say (raw "couldn't edit " ++ name ++ raw ": not a regular file")
            setStatus 4
            pure false
        | .error fault =>
          sayReadFault name fault
          pure false
    if !isReadable then editSeparately inPlace names state
    else
      let start :=
        { state with
          stream := stream, ahead := [], number := 0, lacksEnd := false
          ranges := Edit.earlyRanges state.script
          captured := inPlace.map fun _ => [] }
      let (status, after) ← (Edit.cycles streamFuel true).run start
      match inPlace, after.captured with
      | some suffix, some pieces =>
        if !suffix.isEmpty then
          match ← readFile name with
          | .ok old => let _ ← writeFile (backupName suffix name) old false
          | .error _ => pure ()
        let rest := if status.isSome then after.ahead.flatten else []
        let _ ← writeFile name (pieces.reverse.flatten ++ rest) false
      | _, _ => pure ()
      match status with
      | some status => exit status
      | none => editSeparately inPlace names after

def runEdit (arguments : List RawText) : Tool Unit := do
  let options ← readOptions 1 editRules arguments
  let (expressions, names) ← expressionsOf options
  let origin := (expressions.head?.map (·.1)).getD []
  match readScript (options.has "E") expressions 1 { rest := [] } with
  | .error message => fail 1 message
  | .ok state =>
    if !state.blocks.isEmpty then fail 1 (origin ++ raw ", char 0: unmatched \x60\x7b'")
    match missingLabel? state.script with
    | some name => fail 4 (raw "can't find label for jump to \x60" ++ name ++ raw "'")
    | none => pure ()
    let mark := if options.has "z" then '\x00' else '\n'
    let outputs ← openOutputs state.script.outputs []
    let start : EditState :=
      { script := state.script
        isSilent := options.has "n" || state.script.isSilent
        width := ((options.value? "l").bind natural?).getD 70
        mark := mark
        stream := { names := [] }
        ranges := Edit.earlyRanges state.script
        outputs := outputs }
    if options.has "i" || options.has "s" then
      editSeparately (options.value? "i") (inputNames names) start
    else
      let stream ← editStream mark names
      let (status, _) ← (Edit.cycles streamFuel true).run { start with stream := stream }
      match status with
      | some status => exit (max status (← get).status)
      | none => return

end KeyJoin.Tools.Editing
