import KeyJoin.Tools.Amounts
import KeyJoin.Tools.Options
import KeyJoin.Tools.Stream

/-!
# Widths of lines

Tools that fold lines to a width, and that put spaces for tabs or tabs for
spaces.  Tab stops are a list of columns that may go on at equal distances.
-/

namespace KeyJoin.Tools

open Tool

/-! ## Folding -/

/-- The column after a character. -/
def columnAfter (countsBytes : Bool) (column : Nat) (c : Char) : Nat :=
  if countsBytes then column + 1
  else if c == '\x08' then column - 1
  else if c == '\x0d' then 0
  else if c == '\t' then column + 8 - column % 8
  else column + 1

/-- Folds a line: `line` holds backwards what has not been put yet, and `column` its width. -/
def foldLine (countsBytes atBlanks : Bool) (width : Nat) :
    Nat → RawText → Nat → RawText → RawText → RawText
  | 0, line, _, out, rest => (line ++ out).reverse ++ rest
  | _, line, _, out, [] => (line ++ out).reverse
  | fuel + 1, line, column, out, c :: rest =>
    if c == '\n' then foldLine countsBytes atBlanks width fuel [] 0 ('\n' :: line ++ out) rest
    else
      let next := columnAfter countsBytes column c
      if width < next then
        let afterBlank := if atBlanks then line.takeWhile fun d => !isBlankByte d else line
        if atBlanks && afterBlank.length < line.length then
          let before := line.drop afterBlank.length
          let column := afterBlank.reverse.foldl (columnAfter countsBytes) 0
          foldLine countsBytes atBlanks width fuel afterBlank column ('\n' :: before ++ out) (c :: rest)
        else if line.isEmpty then foldLine countsBytes atBlanks width fuel [c] next out rest
        else foldLine countsBytes atBlanks width fuel [] 0 ('\n' :: line ++ out) (c :: rest)
      else foldLine countsBytes atBlanks width fuel (c :: line) next out rest

/-- Options that are digits, with the digits behind them. -/
def digitRules : List OptionRule :=
  "0123456789".toList.map fun c =>
    { key := c.toString, letters := c.toString, argument := .possible }

/-- The number that an option of digits stands for. -/
def digitsOfOption? (key : String) (value : RawText) : Option RawText :=
  match key.toList with
  | [c] => if c.isDigit then some (c :: value) else none
  | _ => none

def foldRules : List OptionRule :=
  digitRules ++
    [{ key := "b", letters := "b", name := "bytes" }, { key := "s", letters := "s", name := "spaces" },
      { key := "w", letters := "w", name := "width", argument := .required }]

def runFold (arguments : List RawText) : Tool Unit := do
  let options ← readOptions 1 foldRules arguments
  let width ← options.given.foldlM
    (fun width (key, value) => do
      match digitsOfOption? key value, key with
      | some digits, _ => columns digits
      | none, "w" => columns value
      | none, _ => return width)
    80
  for (_, text) in ← readInputs options.operands do
    put (foldLine (options.has "b") (options.has "s") width (4 * text.length + 4) [] 0 [] text)
where
  columns (text : RawText) : Tool Nat := do
    let n ← boundedAmount 1 naturalRule 1 (twoTo 64 - 10) "invalid number of columns" text
    return n.toNat

/-! ## Tab stops -/

/-- Columns of tab stops, and the distance of those behind them: from the start of the line or from
the last one of the list. -/
structure TabStops where
  columns : List Nat := []
  distance : Nat := 0
  increment : Nat := 0

namespace TabStops

/-- The next stop behind a column, if there is one. -/
def next? (stops : TabStops) (column : Nat) : Option Nat :=
  let every := fun (n : Nat) => some (column + (n - column % n))
  match stops.columns with
  | [] =>
    every (if stops.distance != 0 then stops.distance
      else if stops.increment != 0 then stops.increment else 8)
  | columns =>
    if columns.length = 1 && stops.distance = 0 && stops.increment = 0 then every (columns.headD 8)
    else
      match columns.find? fun stop => column < stop with
      | some stop => some stop
      | none =>
        if stops.distance != 0 then every stops.distance
        else if stops.increment != 0 then
          let last := columns.getLastD 0
          some (column + (stops.increment - (column - last) % stops.increment))
        else none

end TabStops

/-- The mark in front of a number in a list of stops. -/
inductive StopMark
  | none
  | slash
  | plus
  deriving DecidableEq

/-- What has been read of a list of stops: the number at hand and its mark, and whether the list is
good. -/
structure StopReading where
  stops : TabStops
  number : Option RawText := none
  mark : StopMark := .none
  isGood : Bool := true

namespace StopReading

def refuse (reading : StopReading) (message : RawText) : Tool StopReading := do
  say message
  return { reading with isGood := false }

/-- Puts the number at hand to the stops. -/
def close (reading : StopReading) : Tool StopReading := do
  match reading.number with
  | none => return reading
  | some digits =>
    let closed := { reading with number := none }
    let n := readInBase 10 digits
    if twoTo 64 ≤ n then closed.refuse (raw "tab stop is too large " ++ quoted digits)
    else
      match reading.mark with
      | .none => return { closed with stops := { closed.stops with columns := closed.stops.columns ++ [n] } }
      | .slash =>
        let closed := { closed with stops := { closed.stops with distance := n } }
        if reading.stops.distance != 0 then
          closed.refuse (raw "'/' specifier only allowed with the last value")
        else return closed
      | .plus =>
        let closed := { closed with stops := { closed.stops with increment := n } }
        if reading.stops.increment != 0 then
          closed.refuse (raw "'+' specifier only allowed with the last value")
        else return closed

def takeText (reading : StopReading) : RawText → Tool StopReading
  | [] => do
    if reading.isGood then reading.close else return reading
  | c :: rest => do
    if c == ',' || isBlankByte c then takeText (← reading.close) rest
    else if c == '/' || c == '+' then
      let reading ←
        if reading.number.isSome then
          reading.refuse (raw "'" ++ [c] ++ raw "' specifier not at start of number: " ++ quoted (c :: rest))
        else pure reading
      takeText { reading with mark := if c == '/' then .slash else .plus } rest
    else if c.isDigit then
      takeText { reading with number := some (reading.number.getD [] ++ [c]) } rest
    else reading.refuse (raw "tab size contains invalid character(s): " ++ quoted (c :: rest))

end StopReading

/-- Reads one more list of stops. -/
def readTabStops (stops : TabStops) (text : RawText) : Tool TabStops := do
  let reading ← ({ stops := stops } : StopReading).takeText text
  if !reading.isGood then exit 1
  return reading.stops

def checkTabStops (stops : TabStops) : Tool Unit := do
  let _ ← stops.columns.foldlM
    (fun last n => do
      if n = 0 then fail 1 (raw "tab size cannot be 0")
      if n ≤ last then fail 1 (raw "tab sizes must be ascending")
      return n)
    0
  if stops.distance != 0 && stops.increment != 0 then
    fail 1 (raw "'/' specifier is mutually exclusive with '+'")

/-! ## Spaces for tabs -/

/-- Whether tabs are still replaced, and the column. -/
structure ExpandState where
  converts : Bool := true
  column : Nat := 0

def expandByte (stops : TabStops) (onlyFirst : Bool) (state : ExpandState) (c : Char) :
    RawText × ExpandState :=
  if c == '\n' then ([c], {})
  else if !state.converts then ([c], state)
  else
    let goesOn := !onlyFirst || isBlankByte c
    if c == '\t' then
      let next := (stops.next? state.column).getD (state.column + 1)
      (List.replicate (next - state.column) ' ', ⟨goesOn, next⟩)
    else if c == '\x08' then ([c], ⟨goesOn, state.column - 1⟩)
    else ([c], ⟨goesOn, state.column + 1⟩)

/-- What a function makes of a text byte by byte, with a state. -/
def mapBytes {σ : Type} (step : σ → Char → RawText × σ) (text : RawText) (first : σ) : RawText × σ :=
  let (out, state) := text.foldl
    (fun ((out, state) : List RawText × σ) c =>
      let (shown, state) := step state c
      (shown :: out, state))
    ([], first)
  (out.reverse.flatten, state)

def expandRules : List OptionRule :=
  digitRules ++
    [{ key := "i", letters := "i", name := "initial" },
      { key := "t", letters := "t", name := "tabs", argument := .required }]

def runExpand (arguments : List RawText) : Tool Unit := do
  let options ← readOptions 1 expandRules arguments
  let stops ← options.given.foldlM
    (fun stops (key, value) =>
      match digitsOfOption? key value, key with
      | some digits, _ => readTabStops stops digits
      | none, "t" => readTabStops stops value
      | none, _ => return stops)
    {}
  checkTabStops stops
  mapPieces (fun state text => mapBytes (expandByte stops (options.has "i")) text state)
    options.operands ({} : ExpandState)

/-! ## Tabs for spaces -/

/-- The state in a line: whether blanks are still replaced, the column, the blanks not put yet,
whether one of them stood just before a stop, and whether the last byte was blank. -/
structure UnexpandState where
  converts : Bool := true
  column : Nat := 0
  pending : RawText := []
  hasOneBefore : Bool := false
  wasBlank : Bool := true

namespace UnexpandState

/-- The pending blanks as they are put when something else follows. -/
def shownPending (state : UnexpandState) : RawText :=
  if 1 < state.pending.length && state.hasOneBefore then '\t' :: state.pending.drop 1
  else state.pending

/-- Puts a byte behind the pending blanks. -/
def putByte (state : UnexpandState) (all : Bool) (c : Char) : RawText × UnexpandState :=
  if c == '\n' then (state.shownPending ++ [c], {})
  else
    (state.shownPending ++ [c],
      { state with
        pending := []
        hasOneBefore := if state.pending.isEmpty then state.hasOneBefore else false
        wasBlank := isBlankByte c
        converts := state.converts && (all || isBlankByte c) })

def step (stops : TabStops) (all : Bool) (state : UnexpandState) (c : Char) :
    RawText × UnexpandState :=
  if !state.converts then ([c], if c == '\n' then {} else state)
  else if isBlankByte c then
    match stops.next? state.column with
    | none => { state with converts := false }.putByte all c
    | some next =>
      let replaced : RawText := if state.hasOneBefore then ['\t'] else []
      if c == '\t' then { state with column := next, pending := replaced }.putByte all '\t'
      else
        let state := { state with column := state.column + 1 }
        if state.wasBlank && state.column = next then
          { state with pending := replaced }.putByte all '\t'
        else
          ([], { state with
                pending := state.pending ++ [c]
                hasOneBefore := state.hasOneBefore || state.column == next
                wasBlank := true })
  else if c == '\x08' then { state with column := state.column - 1 }.putByte all c
  else { state with column := state.column + 1 }.putByte all c

end UnexpandState

def unexpandRules : List OptionRule :=
  letterRules "0123456789," ++
    [{ key := "a", letters := "a", name := "all" }, { key := "f", name := "first-only" },
      { key := "t", letters := "t", name := "tabs", argument := .required }]

/-- The stops of options that are digits and commas, or lists. -/
def unexpandStops (options : GivenOptions) : Tool TabStops := do
  let add := fun (stops : TabStops) (digits : RawText) =>
    if digits.isEmpty then stops
    else { stops with columns := stops.columns ++ [readInBase 10 digits] }
  let (stops, digits) ← options.given.foldlM
    (fun ((stops, digits) : TabStops × RawText) (key, value) => do
      match key.toList with
      | [','] => return (add stops digits, [])
      | ['t'] => return (← readTabStops stops value, digits)
      | [c] => return if c.isDigit then (stops, digits ++ [c]) else (stops, digits)
      | _ => return (stops, digits))
    ({}, [])
  return add stops digits

def runUnexpand (arguments : List RawText) : Tool Unit := do
  let options ← readOptions 1 unexpandRules arguments
  let stops ← unexpandStops options
  checkTabStops stops
  let all := (options.has "a" || options.has "t") && !options.has "f"
  let stream := InputStream.ofNames options.operands
  mapStreamToEnd (fun state text => mapBytes (UnexpandState.step stops all) text state)
    UnexpandState.shownPending stream {}

end KeyJoin.Tools
