import KeyJoin.Host.Action

/-!
# Tools

A tool is a program of the host that reads its arguments and files, prints, and
ends with a status.  What it prints is collected and written in pieces; before
a message is written, all that was printed goes out.  A tool goes on after a
file that it cannot read and tells of it by its status.
-/

namespace KeyJoin

/-- What a tool keeps while it runs.  What it has printed stands backwards; `usage` is said before
the help is pointed out. -/
structure ToolState where
  name : RawText
  environment : List (RawText × RawText) := []
  out : List RawText := []
  size : Nat := 0
  status : Nat := 0
  usage : RawText := []

/-- A tool may end at any point with a status. -/
abbrev Tool := ExceptT Nat (StateT ToolState Task)

namespace Tool

/-- Asks the system. -/
def ask (request : Request) : Tool request.Answer :=
  fun state next => .ask request fun answer => next (.ok answer, state)

/-- Splits off a child that runs `body`, and gives its number. -/
def fork (body : Tool Unit) : Tool Nat :=
  fun state next =>
    .fork
      (body.run.run { state with out := [], size := 0 } fun
        | (.ok (), after) => .finish (.exited after.status)
        | (.error status, _) => .finish (.exited status))
      fun id => next (.ok id, state)

/-- Becomes another program; goes on only if that is refused. -/
def become (path : RawText) (call : Invocation) : Tool SystemFault :=
  fun state next => .exec path call fun fault => next (.ok fault, state)

def endBySignal {α : Type} (signal : Nat) : Tool α :=
  fun _ _ => .finish (.signaled signal)

def exit {α : Type} (status : Nat) : Tool α :=
  throw status

def setStatus (status : Nat) : Tool Unit :=
  modify fun state => { state with status := max state.status status }

/-- Writes a message with the name of the tool in front. -/
def writeMessage (text : RawText) : Tool Unit := do
  let _ ← ask (.write 2 ((← get).name ++ raw ": " ++ text ++ ['\n']))

/-- Writes what has been printed. -/
def flush : Tool Unit := do
  let pieces := (← get).out
  if pieces.isEmpty then return
  modify fun state => { state with out := [], size := 0 }
  match ← ask (.write 1 pieces.reverse.flatten) with
  | .ok () => return
  | .error fault =>
    writeMessage (raw "write error: " ++ raw fault.description)
    exit 1

/-- How much is printed before it is written. -/
def bufferSize : Nat := 4096

def put (text : RawText) : Tool Unit := do
  modify fun state =>
    { state with out := text :: state.out, size := state.size + text.length }
  if bufferSize ≤ (← get).size then flush

def putLine (text : RawText) : Tool Unit :=
  put (text ++ ['\n'])

/-- Writes a message after all that has been printed. -/
def say (text : RawText) : Tool Unit := do
  flush
  writeMessage text

/-- Writes text as it is after all that has been printed. -/
def sayPlainly (text : RawText) : Tool Unit := do
  flush
  let _ ← ask (.write 2 text)

def fail {α : Type} (status : Nat) (text : RawText) : Tool α := do
  say text
  exit status

/-- Says what is wrong with the use of the tool and where its help is found. -/
def misuse {α : Type} (status : Nat) (text : RawText) : Tool α := do
  if !text.isEmpty then say text
  let state ← get
  sayPlainly (state.usage ++ raw "Try '" ++ state.name ++ raw " --help' for more information.\n")
  exit status

/-- A text within quotes, as it stands in messages. -/
def quoted (text : RawText) : RawText :=
  '\'' :: text ++ ['\'']

/-! ## Files -/

/-- A name as messages show it: in quotes if a shell would not read it as it stands. -/
def shownName (name : RawText) : RawText :=
  let isPlain := fun (c : Char) =>
    c.isAlphanum || ['%', '+', ',', '-', '.', '/', ':', '@', '_', '#', '~', '\x7b', '\x7d',
      ']'].contains c || decide ('\x7f' < c)
  if !name.isEmpty && name.all isPlain then name
  else if name.contains '\'' then
    if name.any fun c => ['"', '\\', '$', '\x60', '!'].contains c then
      '\'' :: (name.flatMap fun c => if c == '\'' then raw "'\\''" else [c]) ++ ['\'']
    else '"' :: name ++ ['"']
  else quoted name

def sayFault (name : RawText) (fault : SystemFault) : Tool Unit :=
  say (shownName name ++ raw ": " ++ raw fault.description)

/-- Reads an open file to its end; the pieces read so far stand backwards. -/
def readAllFrom (number : Nat) : Nat → List RawText → Tool (Fallible RawText)
  | 0, pieces => return .ok pieces.reverse.flatten
  | fuel + 1, pieces => do
    match ← ask (.read number 65536) with
    | .error fault => return .error fault
    | .ok [] => return .ok pieces.reverse.flatten
    | .ok text => readAllFrom number fuel (text :: pieces)

def readAll (number : Nat) : Tool (Fallible RawText) :=
  readAllFrom number 1000000 []

def standardInput : RawText := ['-']

/-- The text of a file, or of the standard input for a dash. -/
def readFile (name : RawText) : Tool (Fallible RawText) := do
  if name == standardInput then readAll 0
  else
    match ← ask (.openFile name { reads := true }) with
    | .error fault => return .error fault
    | .ok number =>
      let text ← readAll number
      let _ ← ask (.close number)
      return text

/-- The text of a file; if it cannot be read, the tool says so and goes on. -/
def readOrSay (name : RawText) : Tool (Option RawText) := do
  match ← readFile name with
  | .ok text => return some text
  | .error fault =>
    sayFault name fault
    setStatus 1
    return none

/-- The names of files, or the standard input if there are none. -/
def inputNames (names : List RawText) : List RawText :=
  if names.isEmpty then [standardInput] else names

/-- The texts of all files that can be read, with their names. -/
def readInputs (names : List RawText) : Tool (List (RawText × RawText)) := do
  let mut texts := []
  for name in inputNames names do
    match ← readOrSay name with
    | some text => texts := texts ++ [(name, text)]
    | none => pure ()
  return texts

/-- The text of all files that can be read, one after the other. -/
def readTogether (names : List RawText) : Tool RawText := do
  return (← readInputs names).flatMap (·.2)

/-- Writes a file anew or at its end. -/
def writeFile (name text : RawText) (appends : Bool) : Tool (Fallible Unit) := do
  match ← ask (.openFile name
      { writes := true, creates := true, truncates := !appends, appends := appends }) with
  | .error fault => return .error fault
  | .ok number =>
    let result ← ask (.write number text)
    let _ ← ask (.close number)
    return result

def lookupEnvironment (name : String) : Tool (Option RawText) := do
  return (← get).environment.lookup name.toList

/-- Turns a tool into the action of a program. -/
def action (tool : List RawText → Tool Unit) (call : Invocation) : Action :=
  (do
    let result ← tryCatch (do
        tool call.arguments
        return none) fun status => return some status
    match result with
    | some status =>
      flush
      exit status
    | none => flush : Tool Unit).run.run
    { name := call.name, environment := call.environment }
    fun
      | (.ok (), state) => .finish (.exited (state.status % 256))
      | (.error status, _) => .finish (.exited (status % 256))

end Tool

end KeyJoin
