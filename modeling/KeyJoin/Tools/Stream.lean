import KeyJoin.Tools.Tool

/-!
# Streams of lines

A tool that need not see all of its input before it prints reads it piece by
piece, so that it also serves writers that never end.  A stream goes through the
named files one after the other.
-/

namespace KeyJoin

/-- Input read piece by piece: the files still to be opened, the one that is open, the text that has
been read but not taken, what is done about a file that cannot be read, and which open files are
read. -/
structure InputStream where
  names : List RawText
  opened : RawText := []
  current : Option Nat := none
  text : RawText := []
  lines : List RawText := []
  chunk : Nat := 65536
  onFault : RawText → SystemFault → Tool Unit := fun name fault => do
    Tool.sayFault name fault
    Tool.setStatus 1
  admits : RawText → Nat → Tool Bool := fun _ _ => return true

namespace InputStream

def ofNames (names : List RawText) : InputStream :=
  { names := Tool.inputNames names }

def closeInput (number : Nat) : Tool Unit := do
  if number != 0 then let _ ← Tool.ask (.close number)

/-- What comes next of a stream. -/
inductive StreamEvent
  | piece (text : RawText)
  | endOfFile
  | finished

def closeCurrent (stream : InputStream) (number : Nat) : Tool (StreamEvent × InputStream) := do
  closeInput number
  return (.endOfFile, { stream with current := none })

/-- Reads a piece of text, or goes to the next file; files that cannot be read are told of. -/
def nextEvent : Nat → InputStream → Tool (StreamEvent × InputStream)
  | 0, stream => return (.finished, stream)
  | fuel + 1, stream => do
    match stream.current with
    | some number =>
      match ← Tool.ask (.read number stream.chunk) with
      | .ok [] => stream.closeCurrent number
      | .ok text => return (.piece text, stream)
      | .error fault =>
        stream.onFault stream.opened fault
        stream.closeCurrent number
    | none =>
      match stream.names with
      | [] => return (.finished, stream)
      | name :: names =>
        let stream := { stream with names := names, opened := name }
        let opened ←
          if name == Tool.standardInput then pure (.ok 0)
          else Tool.ask (.openFile name { reads := true })
        match opened with
        | .ok number =>
          if ← stream.admits name number then nextEvent fuel { stream with current := some number }
          else
            closeInput number
            nextEvent fuel stream
        | .error fault =>
          stream.onFault name fault
          nextEvent fuel stream

/-- Splits a piece into whole lines and the beginning of the next one. -/
def wholeLines (text : RawText) : List RawText × RawText :=
  match (endedLines text).reverse with
  | [] => ([], [])
  | last :: before =>
    if last.getLast? == some '\n' then ((last :: before).reverse, []) else (before.reverse, last)

/-- Takes a line with the line feed that ends it; the last line may have none. -/
def nextLine : Nat → InputStream → Tool (Option RawText × InputStream)
  | 0, stream => return (none, stream)
  | fuel + 1, stream => do
    match stream.lines with
    | line :: lines => return (some line, { stream with lines := lines })
    | [] =>
      match ← nextEvent 100000 stream with
      | (.finished, stream) => return (none, stream)
      | (.endOfFile, stream) =>
        if stream.text.isEmpty then nextLine fuel stream
        else return (some stream.text, { stream with text := [] })
      | (.piece text, stream) =>
        let (lines, rest) := wholeLines (stream.text ++ text)
        nextLine fuel { stream with lines := lines, text := rest }

end InputStream

/-- The number of steps that reading a stream may take. -/
def streamFuel : Nat := 1000000000

/-- Takes the next line of a stream. -/
def takeLine (stream : InputStream) : Tool (Option RawText × InputStream) :=
  InputStream.nextLine streamFuel stream

/-- Goes through the pieces of a stream with a state; nothing for the state ends it. -/
def foldPieces {σ : Type} (step : σ → RawText → Tool (Option σ)) :
    Nat → σ → InputStream → Tool Unit
  | 0, _, _ => return
  | fuel + 1, state, stream => do
    match ← InputStream.nextEvent 100000 stream with
    | (.finished, _) => return
    | (.endOfFile, stream) => foldPieces step fuel state stream
    | (.piece text, stream) =>
      match ← step state text with
      | none => return
      | some state => foldPieces step fuel state stream

/-- Goes through all pieces of a stream with a state, and gives the last one. -/
def foldAllPieces {σ : Type} (step : σ → RawText → Tool σ) : Nat → σ → InputStream → Tool σ
  | 0, state, _ => return state
  | fuel + 1, state, stream => do
    match ← InputStream.nextEvent 100000 stream with
    | (.finished, _) => return state
    | (.endOfFile, stream) => foldAllPieces step fuel state stream
    | (.piece text, stream) => foldAllPieces step fuel (← step state text) stream

/-- Goes through the lines of a stream with a state, and gives the last one. -/
def foldLines {σ : Type} (step : σ → RawText → Tool (σ × Bool)) :
    Nat → σ → InputStream → Tool σ
  | 0, state, _ => return state
  | fuel + 1, state, stream => do
    match ← takeLine stream with
    | (none, _) => return state
    | (some line, stream) =>
      let (state, goesOn) ← step state line
      if goesOn then foldLines step fuel state stream else return state

/-- Prints what a function makes of every piece of a stream at once. -/
def mapStream {σ : Type} (step : σ → RawText → RawText × σ) (stream : InputStream) (first : σ) :
    Tool Unit :=
  foldPieces
    (fun state text => do
      let (shown, state) := step state text
      Tool.put shown
      Tool.flush
      return some state)
    streamFuel first stream

/-- Prints what a function makes of every piece of a stream, and at the end what is left. -/
def mapStreamToEnd {σ : Type} (step : σ → RawText → RawText × σ) (rest : σ → RawText)
    (stream : InputStream) (first : σ) : Tool Unit := do
  let last ← foldAllPieces
    (fun state text => do
      let (shown, state) := step state text
      Tool.put shown
      Tool.flush
      return state)
    streamFuel first stream
  Tool.put (rest last)

/-- Prints what a function makes of every piece of input at once. -/
def mapPieces {σ : Type} (step : σ → RawText → RawText × σ) (names : List RawText) (first : σ) :
    Tool Unit :=
  mapStream step (InputStream.ofNames names) first

/-- Goes through the lines of the input with a state, and gives the last one. -/
def foldInputLines {σ : Type} (names : List RawText) (first : σ)
    (step : σ → RawText → Tool (σ × Bool)) : Tool σ :=
  foldLines step streamFuel first (InputStream.ofNames names)

end KeyJoin
