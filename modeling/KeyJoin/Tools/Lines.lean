import KeyJoin.Tools.Options
import KeyJoin.Tools.RegexSyntax
import KeyJoin.Tools.Stream

/-!
# Lines passed on

Tools that pass their input on: as it is or with its bytes shown, copied to
files, with its lines in reverse order, or with the characters of each line in
reverse order.
-/

namespace KeyJoin.Tools

open Tool

/-! ## All lines -/

/-- How bytes are shown: tabs as they are or marked, and other unprintable ones marked. -/
structure ByteDisplay where
  marksUnprintable : Bool
  marksTabs : Bool

def shownControl (c : Char) : RawText :=
  if c.toNat < 32 then ['^', Char.ofNat (c.toNat + 64)]
  else if c.toNat = 127 then ['^', '?']
  else [c]

def ByteDisplay.show (display : ByteDisplay) (c : Char) : RawText :=
  if c == '\t' then if display.marksTabs then ['^', 'I'] else [c]
  else if !display.marksUnprintable || c == '\n' then [c]
  else if 128 ≤ c.toNat then ['M', '-'] ++ shownControl (Char.ofNat (c.toNat - 128))
  else shownControl c

structure LineNumbering where
  atStart : Bool := true
  number : Nat := 1
  blanks : Nat := 0

def catRules : List OptionRule :=
  [{ key := "b", letters := "b", name := "number-nonblank" },
    { key := "n", letters := "n", name := "number" },
    { key := "s", letters := "s", name := "squeeze-blank" },
    { key := "v", letters := "v", name := "show-nonprinting" },
    { key := "E", letters := "E", name := "show-ends" },
    { key := "T", letters := "T", name := "show-tabs" },
    { key := "A", letters := "A", name := "show-all" },
    { key := "e", letters := "e" }, { key := "t", letters := "t" }, { key := "u", letters := "u" }]

/-- Shows one line or a part of one, which may go on in the next part. -/
def catLine (options : GivenOptions) (display : ByteDisplay) (state : LineNumbering)
    (line : RawText) : RawText × LineNumbering :=
  let isBlank := state.atStart && line == ['\n']
  let isEnded := line.getLast? == some '\n'
  let blanks := if isBlank then state.blanks + 1 else 0
  if isBlank && options.has "s" && 1 < blanks then ([], { state with blanks := blanks })
  else
    let isNumbered := state.atStart &&
      (if options.has "b" then !isBlank else options.has "n")
    let number := if isNumbered then padLeft 6 (naturalText state.number) ++ ['\t'] else []
    let marksEnds := options.has "E" || options.has "A" || options.has "e"
    let body := (lineBody line).flatMap display.show
    let body :=
      if marksEnds && isEnded && body.getLast? == some '\x0d' then body.dropLast ++ ['^', 'M']
      else body
    let ending := if !isEnded then [] else if marksEnds then ['$', '\n'] else ['\n']
    (number ++ body ++ ending,
      { atStart := isEnded, blanks := blanks
        number := if isNumbered then state.number + 1 else state.number })

/-- Whether an open file is not the one that is written; a file that is copied to its own end never
ends. -/
def isNotOutput (name : RawText) (number : Nat) : Tool Bool := do
  match ← ask (.statusOfOpen number), ← ask (.statusOfOpen 1) with
  | .ok input, .ok output =>
    let isSame := input.kind == .regular && input.node == output.node && 0 < input.size
    if isSame then
      say (shownName name ++ raw ": input file is output file")
      setStatus 1
    return !isSame
  | _, _ => return true

def runCat (arguments : List RawText) : Tool Unit := do
  let options ← readOptions 1 catRules arguments
  let display : ByteDisplay :=
    { marksUnprintable := ["v", "A", "e", "t"].any options.has
      marksTabs := ["T", "A", "t"].any options.has }
  let stream := { InputStream.ofNames options.operands with admits := isNotOutput }
  if options.given.all fun entry => entry.1 == "u" then
    mapStream (fun (_ : Unit) text => (text, ())) stream ()
  else
    mapStream
      (fun (state : LineNumbering) text =>
        (endedLines text).foldl
          (fun (shown, state) line =>
            let (more, state) := catLine options display state line
            (shown ++ more, state))
          ([], state))
      stream {}

/-! ## Copies -/

def teeRules : List OptionRule :=
  [{ key := "a", letters := "a", name := "append" },
    { key := "i", letters := "i", name := "ignore-interrupts" }, { key := "p", letters := "p" },
    { key := "p", name := "output-error", argument := .possible }]

def runTee (arguments : List RawText) : Tool Unit := do
  let options ← readOptions 1 teeRules arguments
  for word in options.values "p" do
    if !word.isEmpty then
      let _ ← readWord 1 "--output-error" [["warn"], ["warn-nopipe"], ["exit"], ["exit-nopipe"]] word
  let appends := options.has "a"
  let mut numbers := []
  for name in options.operands do
    match ← ask (.openFile name
        { writes := true, creates := true, appends := appends, truncates := !appends }) with
    | .ok number => numbers := numbers ++ [number]
    | .error fault =>
      sayFault name fault
      setStatus 1
  let copies := numbers
  foldPieces
    (fun (_ : Unit) text => do
      put text
      flush
      for number in copies do
        let _ ← ask (.write number text)
      return some ())
    streamFuel () (InputStream.ofNames [])

/-! ## Reverse order -/

/-- What ends or begins a record: a text, or whatever an expression matches. -/
inductive RecordMark
  | text (mark : RawText)
  | expression (regex : Regex)

/-- The last place of a mark that ends at a place or before it, with its length. -/
def RecordMark.lastBefore? (mark : RecordMark) (text : Array Char) (stop : Nat) :
    Option (Nat × Nat) :=
  match mark with
  | .text mark =>
    let marks := mark.toArray
    ((List.range (stop + 1 - mark.length)).reverse.find? fun i =>
      text.extract i (i + mark.length) == marks).map fun i => (i, mark.length)
  | .expression regex =>
    let subject : Subject := .ofText (text.extract 0 stop).toList
    ((List.range stop).reverse.findSome? (regex.matchAt? subject)).map fun found =>
      (found.first, found.last - found.first)

/-- The records of a text from the last one on; marks are looked for from the end. -/
def recordsFromEnd (mark : RecordMark) (isBefore : Bool) (text : Array Char) :
    Nat → Nat → Nat → List RawText
  | 0, _, _ => []
  | fuel + 1, stop, searchEnd =>
    match mark.lastBefore? text searchEnd with
    | none => [(text.extract 0 stop).toList]
    | some (place, length) =>
      if isBefore then
        (text.extract place stop).toList :: recordsFromEnd mark isBefore text fuel place place
      else
        let after := place + length
        let record := (text.extract after stop).toList
        let rest := recordsFromEnd mark isBefore text fuel after place
        if after = text.size && stop = text.size then rest else record :: rest

def reversedRecords (mark : RecordMark) (isBefore : Bool) (text : RawText) : RawText :=
  let text := text.toArray
  if text.isEmpty then []
  else (recordsFromEnd mark isBefore text (text.size + 2) text.size text.size).flatten

/-- The lines of a text in reverse order. -/
def reversedLines (text : RawText) : RawText :=
  (endedLines text).reverse.flatten

def reversalRules : List OptionRule :=
  [{ key := "b", letters := "b", name := "before" }, { key := "r", letters := "r", name := "regex" },
    { key := "s", letters := "s", name := "separator", argument := .required }]

def runReverseLines (arguments : List RawText) : Tool Unit := do
  let options ← readOptions 1 reversalRules arguments
  let separator := (options.value? "s").getD ['\n']
  let mark ←
    if options.has "r" then do
      if separator.isEmpty then fail 1 (raw "separator cannot be empty")
      match Regex.read {} separator with
      | .ok (regex, _) => pure (RecordMark.expression regex)
      | .error fault => fail 1 (raw fault.description)
    else pure (.text (if separator.isEmpty then ['\x00'] else separator))
  let isPlain := options.given.isEmpty
  for name in inputNames options.operands do
    match ← readFile name with
    | .ok text =>
      put (if isPlain then reversedLines text else reversedRecords mark (options.has "b") text)
    | .error .isADirectory =>
      say (shownName name ++ raw ": read error: Is a directory")
      setStatus 1
    | .error fault =>
      say (raw "failed to open " ++ quoted name ++ raw " for reading: " ++ raw fault.description)
      setStatus 1

def runReverseCharacters (arguments : List RawText) : Tool Unit := do
  let options ← readOptions 1 [{ key := "0", letters := "0", name := "zero" }] arguments
  let mark := if options.has "0" then '\x00' else '\n'
  for name in inputNames options.operands do
    match ← readFile name with
    | .error fault =>
      say (raw "cannot open " ++ name ++ raw ": " ++ raw fault.description)
      setStatus 1
    | .ok text =>
      for line in linesEndedBy mark text do
        let body := line.takeWhile (· != mark)
        put (body.reverse ++ line.drop body.length)

end KeyJoin.Tools
