import KeyJoin.Tools.Processes
import KeyJoin.Tools.Records.State

/-!
# Input and output of a running program

Records come from the files and assignments among the arguments, from other
files, or from commands.  What is printed goes to the standard output, to files
or to commands.  A file or a command stays open under its name until it is
closed.
-/

namespace KeyJoin.Tools.Records

/-- What records end with. -/
inductive RecordEnd
  | single (c : Char)
  | paragraph
  | regex (regex : Regex)

namespace Run

/-! ## Reading records -/

/-- How much is read at once. -/
def pieceSize : Nat := 4096

/-- Reads a piece more. -/
def readPiece (input : RecordInput) : Run RecordInput := do
  match input.number with
  | none => return input
  | some number =>
    match ← (Tool.ask (.read number pieceSize) : Tool _) with
    | .ok [] =>
      (InputStream.closeInput number : Tool _)
      return { input with number := none }
    | .ok text => return { input with text := input.text ++ text }
    | .error fault => fail (raw "read error (" ++ raw fault.description ++ raw ")")

/-- Reads all that is left. -/
def readRest : Nat → List RawText → RecordInput → Run RecordInput
  | 0, _, input => return input
  | fuel + 1, pieces, input => do
    match input.number with
    | none => return { input with text := pieces.reverse.flatten }
    | some _ =>
      let input ← readPiece { input with text := [] }
      readRest fuel (input.text :: pieces) input

def takeSingle (c : Char) : Nat → RecordInput → Run (Option RawText × RecordInput)
  | 0, input => return (none, input)
  | fuel + 1, input => do
    let record := input.text.takeWhile (· != c)
    match input.text.drop record.length with
    | _ :: rest => return (some record, { input with text := rest })
    | [] =>
      if input.number.isSome then takeSingle c fuel (← readPiece input)
      else if record.isEmpty then return (none, input)
      else return (some record, { input with text := [] })

/-- The first paragraph of a text, and what follows it. -/
def firstParagraph (text : RawText) : Option (RawText × RawText) :=
  let text := text.dropWhile (· == '\n')
  let rec go : RawText → RawText → RawText × RawText
    | out, [] => (out.reverse, [])
    | out, ['\n'] => (out.reverse, [])
    | out, '\n' :: '\n' :: rest => (out.reverse, rest.dropWhile (· == '\n'))
    | out, c :: rest => go (c :: out) rest
  if text.isEmpty then none else some (go [] text)

def takeRecord (ending : RecordEnd) (input : RecordInput) :
    Run (Option RawText × RecordInput) := do
  match ending with
  | .single c => takeSingle c streamFuel input
  | .paragraph =>
    let input ← readRest streamFuel [input.text] input
    match firstParagraph input.text with
    | none => return (none, { input with text := [] })
    | some (record, rest) => return (some record, { input with text := rest })
  | .regex regex =>
    let input ← readRest streamFuel [input.text] input
    if input.text.isEmpty then return (none, input)
    else
      let subject := Subject.ofText input.text
      match findVisible? regex subject 0 with
      | none => return (some input.text, { input with text := [] })
      | some found =>
        return (some (input.text.take found.first), { input with text := input.text.drop found.last })

def recordEnd : Run RecordEnd := do
  match ← textOfName "RS" with
  | [] => return .paragraph
  | [c] => return .single c
  | text => return .regex (← regexOfText text)

/-! ## The main input -/

/-- The name and the value of an argument that sets a variable. -/
def assignment? (argument : RawText) : Option (RawText × RawText) :=
  (splitAtFirst? (· == '=') argument).filter fun (name, _) => isNameText name

def assignText (name text : RawText) : Run Unit :=
  setVariable name (.input (withoutEscapes (text.length + 1) text))

def openMain (name : RawText) : Run Unit := do
  let number ←
    if name == Tool.standardInput || name == raw "/dev/stdin" then pure 0
    else
      match ← (Tool.ask (.openFile name { reads := true }) : Tool _) with
      | .ok number => pure number
      | .error fault =>
        fail (raw "cannot open \"" ++ name ++ raw "\" (" ++ raw fault.description ++ raw ")")
  setGlobal "FILENAME" (.text name)
  setGlobal "FNR" (.number 0)
  modify fun state => { state with main := some { number := some number }, hasRead := true }

/-- Opens the next file among the arguments; the standard input if there is none at all. -/
def openNext : Nat → Run Bool
  | 0 => return false
  | fuel + 1 => do
    let place := (← get).operand
    if place < (cutOff (← valueOf "ARGC").toNumber).toNat then
      modify fun state => { state with operand := place + 1 }
      let table ← tableAt (← tableOf (raw "ARGV"))
      let argument ← textOf ((table.get? (naturalText place)).getD .unset)
      if argument.isEmpty then openNext fuel
      else
        match assignment? argument with
        | some (name, text) =>
          assignText name text
          openNext fuel
        | none =>
          openMain argument
          return true
    else if (← get).hasRead then return false
    else
      openMain Tool.standardInput
      return true

/-- Takes the next record of the main input. -/
def nextRecord : Nat → Run (Option RawText)
  | 0 => return none
  | fuel + 1 => do
    match (← get).main with
    | none => if ← openNext streamFuel then nextRecord fuel else return none
    | some input =>
      let (record, input) ← takeRecord (← recordEnd) input
      match record with
      | none =>
        modify fun state => { state with main := none }
        nextRecord fuel
      | some record =>
        modify fun state => { state with main := some input }
        setGlobal "NR" (.number ((← valueOf "NR").toNumber + 1))
        setGlobal "FNR" (.number ((← valueOf "FNR").toNumber + 1))
        return some record

/-- Leaves out the rest of the current file. -/
def skipFile : Run Unit := do
  match (← get).main with
  | some { number := some number, .. } => (InputStream.closeInput number : Tool _)
  | _ => pure ()
  modify fun state => { state with main := none }

/-! ## Output -/

/-- Writes what has been printed to a file. -/
def flushOutput (file : OutputFile) : Run OutputFile := do
  if file.out.isEmpty then return file
  let _ ← (Tool.ask (.write file.number file.out.reverse.flatten) : Tool _)
  return { file with out := [], size := 0 }

def flushAll : Run Unit := do
  (Tool.flush : Tool _)
  let outputs ← (← get).outputs.mapM flushOutput
  modify fun state => { state with outputs := outputs }

def shellPath : RawText := raw "/bin/sh"

/-- Becomes a shell that carries out a command. -/
def becomeShell (command : RawText) : Tool Unit := do
  let _ ← Tool.become shellPath ⟨shellPath, [raw "-c", command], (← get).environment⟩
  Tool.exit 127

/-- Starts a command with a pipe to or from it; gives the end of the pipe and the process. -/
def startCommand (command : RawText) (isOutput : Bool) : Run (Nat × Nat) := do
  flushAll
  let others := (← get).outputs.filterMap fun file => file.process.map fun _ => file.number
  let (readEnd, writeEnd) ← (Tool.ask .openPipe : Tool _)
  let (own, given) := if isOutput then (writeEnd, readEnd) else (readEnd, writeEnd)
  let process ← (Tool.fork do
    for number in others do
      let _ ← Tool.ask (.close number)
    let _ ← Tool.ask (.copyTo given (if isOutput then 0 else 1))
    let _ ← Tool.ask (.close given)
    let _ ← Tool.ask (.close own)
    becomeShell command : Tool _)
  let _ ← (Tool.ask (.close given) : Tool _)
  return (own, process)

def openOutput (kind : OutputKind) (name : RawText) : Run OutputFile := do
  match kind with
  | .command =>
    let (number, process) ← startCommand name true
    return { name := name, kind := kind, number := number, process := some process }
  | _ =>
    let mode : OpenMode :=
      { writes := true, creates := true, truncates := kind == .file, appends := kind == .append }
    match ← (Tool.ask (.openFile name mode) : Tool _) with
    | .ok number => return { name := name, kind := kind, number := number }
    | .error fault =>
      fail (raw "cannot open \"" ++ name ++ raw "\" for output (" ++ raw fault.description ++
        raw ")")

/-- Prints to a file or a command, which is opened if it is not yet. -/
def printTo (kind : OutputKind) (name text : RawText) : Run Unit := do
  if kind != .command && (name == raw "/dev/stdout" || name == Tool.standardInput) then
    (Tool.put text : Tool _)
  else if kind != .command && name == raw "/dev/stderr" then
    let _ ← (Tool.ask (.write 2 text) : Tool _)
  else
    let state ← get
    let file ←
      match state.outputs.find? fun file => file.name == name with
      | some file => pure file
      | none => openOutput kind name
    let file := { file with out := text :: file.out, size := file.size + text.length }
    let file ← if Tool.bufferSize ≤ file.size then flushOutput file else pure file
    modify fun state =>
      { state with
        outputs := file :: state.outputs.filter fun other => other.name != name }

/-! ## Closing -/

/-- The status of a command that has ended. -/
def statusOfEnding : Ending → Nat
  | .exited status => status
  | .signaled signal => 256 + signal

def awaitStatus (process : Option Nat) : Run Nat := do
  match process with
  | none => return 0
  | some process => return statusOfEnding (← (waitFor process 100000 : Tool _))

def closeOutput (file : OutputFile) : Run Nat := do
  let file ← flushOutput file
  let _ ← (Tool.ask (.close file.number) : Tool _)
  awaitStatus file.process

def closeOpenInput (input : OpenInput) : Run Nat := do
  match input.input.number with
  | some number => (InputStream.closeInput number : Tool _)
  | none => pure ()
  awaitStatus input.process

/-- Closes what is open under a name; gives the status of a command, and -1 if nothing is open. -/
def closeNamed (name : RawText) : Run Int := do
  let state ← get
  match state.outputs.find? fun file => file.name == name with
  | some file =>
    set { state with outputs := state.outputs.filter fun other => other.name != name }
    return (← closeOutput file : Nat)
  | none =>
    match state.inputs.find? fun input => input.name == name with
    | some input =>
      set { state with inputs := state.inputs.filter fun other => other.name != name }
      return (← closeOpenInput input : Nat)
    | none => return -1

/-- Closes all files and waits for all commands that are printed to. -/
def closeOutputs : Run Unit := do
  let outputs := (← get).outputs
  modify fun state => { state with outputs := [] }
  for file in outputs do
    let _ ← closeOutput file

/-- Carries out a command, and gives its status. -/
def callSystem (command : RawText) : Run Nat := do
  flushAll
  let others := (← get).outputs.filterMap fun file => file.process.map fun _ => file.number
  let process ← (Tool.fork do
    for number in others do
      let _ ← Tool.ask (.close number)
    becomeShell command : Tool _)
  awaitStatus (some process)

/-- Flushes what is open under a name. -/
def flushNamed (name : RawText) : Run Int := do
  let state ← get
  if name.isEmpty || name == raw "/dev/stdout" then
    (Tool.flush : Tool _)
    return 0
  else if state.outputs.any fun file => file.name == name then
    flushAll
    return 0
  else return -1

/-! ## Reading from elsewhere -/

def openInput (isCommand : Bool) (name : RawText) : Run (Option OpenInput) := do
  if isCommand then
    let (number, process) ← startCommand name false
    return some ⟨name, true, { number := some number }, some process⟩
  else if name == Tool.standardInput || name == raw "/dev/stdin" then
    return some ⟨name, false, { number := some 0 }, none⟩
  else
    match ← (Tool.ask (.openFile name { reads := true }) : Tool _) with
    | .ok number => return some ⟨name, false, { number := some number }, none⟩
    | .error _ => return none

/-- Takes the next record of a file or a command; the outer option says whether it can be read. -/
def recordFrom (isCommand : Bool) (name : RawText) : Run (Option (Option RawText)) := do
  let found := (← get).inputs.find? fun input => input.name == name && input.isCommand == isCommand
  let opened ←
    match found with
    | some input => pure (some input)
    | none => openInput isCommand name
  match opened with
  | none => return none
  | some opened =>
    let (record, input) ← takeRecord (← recordEnd) opened.input
    let isSame := fun (other : OpenInput) => other.name == name && other.isCommand == isCommand
    modify fun state =>
      { state with
        inputs := { opened with input := input } :: state.inputs.filter fun other => !isSame other }
    return some record

end Run

end KeyJoin.Tools.Records
