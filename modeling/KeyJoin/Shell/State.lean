import KeyJoin.Host.Action
import KeyJoin.Shell.Input

/-!
# The state of a shell

A shell has variables, functions, aliases, options and traps of its own; all
else it asks of the system.  Running may be interrupted by what ends the shell,
its command, its function or its loop.
-/

namespace KeyJoin.Shell

/-- A variable; one without a value may still be marked for export or against change. -/
structure Variable where
  name : RawText
  value? : Option RawText
  isExported : Bool := false
  isReadonly : Bool := false

/-- What a name stood for before it was made local; nothing if it was not known. -/
structure SavedVariable where
  name : RawText
  earlier : Option Variable
  savedOptions : Option (List Char) := none

inductive JobState
  | running
  | done (ending : Ending)
  deriving DecidableEq

/-- A command in the background: its processes, of which the last gives its status. -/
structure Job where
  number : Nat
  processes : List (Nat × JobState)
  text : RawText

/-- What the commands that follow are skipped for.  A return with a status of its own differs from
one that keeps the status. -/
inductive Skip
  | function (hasStatus : Bool)
  | breakLoop (levels : Nat)
  | continueLoop (levels : Nat)
  deriving DecidableEq

structure ShellState where
  commandName : RawText
  rootId : Nat
  bindings : List Variable := []
  positional : List RawText := []
  functions : List (RawText × Command) := []
  aliases : List (RawText × RawText) := []
  documents : List (Nat × ShellWord) := []
  nextDocument : Nat := 0
  options : List Char := []
  status : Nat := 0
  line : Nat := 1
  currentCommand : Option RawText := none
  substitutionStatus : Nat := 0
  loopDepth : Nat := 0
  frames : List (List SavedVariable) := []
  traps : List (Nat × RawText) := []
  inheritedIgnored : List Nat := []
  pendingSignals : List Nat := []
  trapStatus : Option Nat := none
  savedDescriptors : List (List (Nat × Option Nat)) := []
  hashed : List (RawText × RawText) := []
  jobs : List Job := []
  lastBackground : Option Nat := none
  directory : RawText := []
  out : List RawText := []
  optionIndex : Nat := 1
  optionPlace : Option Nat := none
  skip : Option Skip := none
  isTracing : Bool := false

/-- What interrupts the running of a command. -/
inductive Interruption
  | exit
  | failure
  | skipped (skip : Skip)

abbrev Sh := ExceptT Interruption (StateT ShellState Task)

/-- Under what conditions a command runs: whether the shell ends after it, so that it needs no
process of its own, and whether its failure is looked at. -/
structure Manner where
  exits : Bool := false
  isTested : Bool := false

/-- Asks the system. -/
def ask (request : Request) : Sh request.Answer :=
  fun state next => .ask request fun answer => next (.ok answer, state)

namespace Sh

def getStatus : Sh Nat := do
  return (← get).status

def setStatus (status : Nat) : Sh Unit :=
  modify fun state => { state with status := status }

def hasOption (c : Char) : Sh Bool := do
  return (← get).options.contains c

def setOption (c : Char) (isOn : Bool) : Sh Unit :=
  modify fun state =>
    let others := state.options.filter (· != c)
    { state with options := if isOn then c :: others else others }

/-! ## Output -/

/-- Adds to what the current command prints, which is written when it has run. -/
def put (text : RawText) : Sh Unit :=
  modify fun state => { state with out := text :: state.out }

def writeNow (number : Nat) (text : RawText) : Sh (Fallible Unit) :=
  ask (.write number text)

/-- Writes what has been printed, and tells whether that went well. -/
def flush : Sh Bool := do
  let pieces := (← get).out
  if pieces.isEmpty then return true
  modify fun state => { state with out := [] }
  match ← writeNow 1 pieces.reverse.flatten with
  | .ok () => return true
  | .error _ => return false

/-! ## Messages -/

/-- Writes a message with the name of the shell, the line and the running command in front. -/
def warn (text : RawText) : Sh Unit := do
  let state ← get
  let command :=
    match state.currentCommand with
    | some command => command ++ raw ": "
    | none => []
  let _ ← writeNow 2 (state.commandName ++ raw ": " ++ naturalText state.line ++ raw ": " ++
    command ++ text ++ ['\n'])

/-- Stops the running command with a message. -/
def failWith {α : Type} (status : Nat) (text : RawText) : Sh α := do
  setStatus status
  warn text
  throw .failure

def fail {α : Type} (text : RawText) : Sh α :=
  failWith 2 text

/-- Ends the shell with a message. -/
def exitWith {α : Type} (status : Nat) (text : RawText) : Sh α := do
  setStatus status
  warn text
  throw .exit

/-! ## Variables -/

def knownVariable (name : RawText) : Sh (Option Variable) := do
  return (← get).bindings.find? fun v => v.name == name

def valueOf? (name : RawText) : Sh (Option RawText) := do
  return (← knownVariable name).bind (·.value?)

def putVariable (entry : Variable) : Sh Unit :=
  modify fun state =>
    if state.bindings.any fun v => v.name == entry.name then
      { state with
        bindings := state.bindings.map fun v => if v.name == entry.name then entry else v }
    else { state with bindings := state.bindings ++ [entry] }

def forgetVariable (name : RawText) : Sh Unit :=
  modify fun state =>
    { state with bindings := state.bindings.filter fun v => v.name != name }

/-- Begins to read options anew at the argument of a number. -/
def resetOptions (value : RawText) : Sh Unit := do
  match natural? value with
  | some n => modify fun state => { state with optionIndex := max n 1, optionPlace := none }
  | none => fail (raw "Illegal number: " ++ value)

/-- Sets a variable, keeping its marks. -/
def setMarked (name : RawText) (value? : Option RawText) (exported readonly : Bool) : Sh Unit := do
  if !isNameText name then fail (name ++ raw ": bad variable name")
  let earlier := (← knownVariable name).getD ⟨name, none, false, false⟩
  if earlier.isReadonly && value?.isSome then fail (name ++ raw ": is read only")
  if name == raw "OPTIND" then
    match value? with
    | some value => resetOptions value
    | none => pure ()
  if name == raw "PATH" then modify fun state => { state with hashed := [] }
  let exported := exported || earlier.isExported || (value?.isSome && (← hasOption 'a'))
  putVariable
    { name := name
      value? := value?.orElse fun _ => earlier.value?
      isExported := exported
      isReadonly := readonly || earlier.isReadonly }

def setVariable (name value : RawText) : Sh Unit :=
  setMarked name (some value) false false

def unsetVariable (name : RawText) : Sh Unit := do
  match ← knownVariable name with
  | some v =>
    if v.isReadonly then fail (name ++ raw ": is read only")
    forgetVariable name
  | none => if !isNameText name then fail (name ++ raw ": bad variable name")

/-- The place of a name in the order in which variables are handed to programs. -/
def bucketOf (name : RawText) : Nat :=
  (name.foldl (fun n c => n + c.toNat) ((name.headD '\x00').toNat * 16)) % 39

/-- The variables that programs see. -/
def environmentOf (state : ShellState) : List (RawText × RawText) :=
  let exported := state.bindings.filterMap fun v =>
    match v.value? with
    | some value => if v.isExported then some (v.name, value) else none
    | none => none
  exported.mergeSort fun a b => bucketOf a.1 ≤ bucketOf b.1

/-- Keeps what a name stands for until the innermost frame is left. -/
def saveVariable (name : RawText) : Sh Unit := do
  let saved := SavedVariable.mk name (← knownVariable name) none
  modify fun state =>
    match state.frames with
    | frame :: frames => { state with frames := (saved :: frame) :: frames }
    | [] => state

def pushFrame : Sh Unit :=
  modify fun state => { state with frames := [] :: state.frames }

def restoreSaved (saved : SavedVariable) : Sh Unit := do
  match saved.savedOptions with
  | some options => modify fun state => { state with options := options }
  | none =>
    match saved.earlier with
    | some v => putVariable v
    | none => forgetVariable saved.name

def popFrame : Sh Unit := do
  match (← get).frames with
  | frame :: frames =>
    modify fun state => { state with frames := frames }
    for saved in frame do
      restoreSaved saved
  | [] => return

/-- Runs `after` whether `action` is interrupted or not. -/
def thenAlways {α : Type} (action : Sh α) (after : Sh Unit) : Sh α := do
  let result ← tryCatch action fun interruption => do
    after
    throw interruption
  after
  return result

/-! ## Parameters -/

def fieldSeparators : Sh RawText := do
  return (← valueOf? (raw "IFS")).getD [' ', '\t', '\n']

/-- The marks of the two options that have no letter. -/
def nologLetter : Char := '\x01'

def debugLetter : Char := '\x02'

def optionNames : List String :=
  ["errexit", "noglob", "ignoreeof", "interactive", "monitor", "noexec", "stdin", "xtrace",
    "verbose", "vi", "emacs", "noclobber", "allexport", "notify", "nounset", "privileged", "nolog",
    "debug"]

/-- The letters of the options, in the order in which they are listed. -/
def optionLetters : List Char :=
  ['e', 'f', 'I', 'i', 'm', 'n', 's', 'x', 'v', 'V', 'E', 'C', 'a', 'b', 'u', 'p', nologLetter,
    debugLetter]

def listedOptions (state : ShellState) : RawText :=
  optionLetters.reverse.filter fun c => c.isAlpha && state.options.contains c

end Sh

end KeyJoin.Shell
