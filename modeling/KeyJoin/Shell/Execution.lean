import KeyJoin.Shell.Builtins
import KeyJoin.Shell.Reading

/-!
# Running commands

A command is run for what it does and for its status.  Simple commands are
functions, commands of the shell itself, or programs in processes of their own;
the other commands are made of them.  A command after which the shell has
nothing left to do takes the place of the shell.  All functions here take an
amount of fuel that bounds how deep commands nest.
-/

namespace KeyJoin.Shell

/-! ## Processes of the shell -/

/-- Splits off a shell that goes on with `body` and ends with its status. -/
def forkShell (body : Sh Unit) : Sh Nat :=
  fun state next =>
    .fork (body.run.run state fun (_, after) => .finish (.exited (after.status % 256)))
      fun id => next (.ok id, state)

/-- Becomes another program; goes on only if that is refused. -/
def becomeProgram (path : RawText) (call : Invocation) : Sh SystemFault :=
  fun state next => .exec path call fun fault => next (.ok fault, state)

def hasTraps : Sh Bool := do
  return (← get).traps.any fun entry => !entry.2.isEmpty

/-- Makes the shell a subshell: it forgets the traps that have actions and its jobs. -/
def enterSubshell : Sh Unit := do
  for (signal, action) in (← get).traps do
    if !action.isEmpty && signal != 0 then ask (.handle signal .usual)
  modify fun state =>
    { state with
      traps := state.traps.filter fun entry => entry.2.isEmpty
      pendingSignals := []
      savedDescriptors := []
      jobs := []
      trapStatus := none
      skip := none }

/-- Makes the shell one in the background, without input and deaf to interrupts. -/
def enterBackground (takesNoInput : Bool) : Sh Unit := do
  ask (.handle 2 .ignored)
  ask (.handle 3 .ignored)
  if takesNoInput then
    let _ ← ask (.close 0)
    let _ ← ask (.openFile (raw "/dev/null") { reads := true })

/-- Notes a command in the background by its processes. -/
def addJob (ids : List Nat) : Sh Unit :=
  modify fun state =>
    let numbers := state.jobs.map Job.number
    let number := ((List.range' 1 (numbers.length + 1)).find? fun n => !numbers.contains n).getD 1
    { state with
      jobs := state.jobs ++ [⟨number, ids.map fun id => (id, .running), []⟩]
      lastBackground := ids.getLast? }

/-- Reads an open file to its end; the pieces read so far stand backwards. -/
def readAllFrom (number : Nat) : Nat → List RawText → Sh RawText
  | 0, pieces => return pieces.reverse.flatten
  | fuel + 1, pieces => do
    match ← ask (.read number 65536) with
    | .error _ | .ok [] => return pieces.reverse.flatten
    | .ok text => readAllFrom number fuel (text :: pieces)

def readAll (number : Nat) : Sh RawText :=
  readAllFrom number 1000000 []

/-! ## Programs -/

def runFaultStatus : SystemFault → Nat
  | .notFound | .notADirectory | .tooManyLinks | .nameTooLong => 127
  | _ => 126

/-- Becomes a program, or a shell that runs it if the system cannot; ends with a message if that is
refused. -/
def replaceShell (name path : RawText) (arguments : List RawText) : Sh Unit := do
  let _ ← Sh.flush
  let environment := Sh.environmentOf (← get)
  let fault ← becomeProgram path ⟨name, arguments, environment⟩
  let fault ←
    if fault == .notExecutable then
      becomeProgram (raw "/bin/sh") ⟨raw "/bin/sh", path :: arguments, environment⟩
    else pure fault
  Sh.exitWith (runFaultStatus fault) (name ++ raw ": " ++ runFaultText fault)

/-- The path of the program to become: of what a name means, the first that can be run. -/
def programToBecome (name : RawText) : Sh (Except SystemFault RawText) := do
  if name.contains '/' then return .ok name
  searchProgram name (← searchPath)

def runExec (arguments : List RawText) : Sh Nat := do
  let (_, rest) ← plainOptions "" arguments
  match rest with
  | [] => return 0
  | name :: arguments =>
    match ← programToBecome name with
    | .ok path => replaceShell name path arguments
    | .error fault =>
      Sh.exitWith (runFaultStatus fault) (name ++ raw ": " ++ runFaultText fault)
    return 0

/-! ## Reading scripts -/

/-- Reads what comes next of a script. -/
def readNext (input : Input) : Sh (Reading × Input) := do
  let state ← get
  let input : Input :=
    { input with
      aliases := state.aliases
      isSpecial := isSpecialBuiltin
      documents := []
      nextDocument := state.nextDocument }
  match readComplete input with
  | .error problem =>
    modify fun state => { state with line := problem.line }
    Sh.fail (raw "Syntax error: " ++ raw problem.fault.message)
  | .ok (reading, input) =>
    modify fun state =>
      { state with
        documents := input.documents ++ state.documents
        nextDocument := input.nextDocument }
    return (reading, input)

def inputOfText (text : RawText) : Input :=
  { strips := [{ rest := text }] }

/-- The file that a script to be run in this shell is in. -/
def scriptPath (name : RawText) : Sh RawText := do
  if name.contains '/' then return name
  for folder in splitAtAll ':' (← searchPath) do
    let path := inFolder folder name
    match ← ask (.statusOf path true) with
    | .ok status => if status.kind == .regular then return path
    | .error _ => pure ()
  Sh.fail (name ++ raw ": not found")

def readScript (path : RawText) : Sh RawText := do
  let number ← openOrFail path { reads := true }
  let text ← readAll number
  let _ ← ask (.close number)
  return text.filter (· != '\x00')

/-! ## Simple commands -/

/-- What a simple command turned out to be.  `path?` is where programs are looked for if it is not
the usual place. -/
structure CommandPlan where
  fields : List RawText := []
  found : Option FoundCommand := none
  skipsFunctions : Bool := false
  path? : Option RawText := none
  isSpecial : Bool := false
  isLocal : Bool := false
  isExec : Bool := false

/-- Expands words until there is a field. -/
def expandFirst (capture : Command → Sh RawText) :
    List ShellWord → Sh (List RawText × List ShellWord)
  | [] => return ([], [])
  | word :: words => do
    match ← expandFields capture word with
    | [] => expandFirst capture words
    | fields => return (fields, words)

/-- The options of the command that runs another one: the fields and words after them and whether
the usual path is asked for, or nothing if it has to be run itself. -/
def commandArguments (capture : Command → Sh RawText) :
    Nat → List RawText → List ShellWord → List RawText → Bool →
    Sh (Option (List RawText × List ShellWord × Bool) × List RawText × List ShellWord)
  | 0, fields, words, before, _ => return (none, before ++ fields, words)
  | fuel + 1, fields, words, before, usesDefault => do
    let (fields, words) ←
      match fields with
      | [] => expandFirst capture words
      | fields => pure (fields, words)
    match fields with
    | [] => return (none, before, words)
    | ['-', '-'] :: rest =>
      let (rest, words) ←
        match rest with
        | [] => expandFirst capture words
        | rest => pure (rest, words)
      if rest.isEmpty then return (none, before ++ fields, words)
      return (some (rest, words, usesDefault), [], [])
    | ('-' :: c :: cs) :: rest =>
      if (c :: cs).all (· == 'p') then
        commandArguments capture fuel rest words (before ++ fields.take 1) true
      else return (none, before ++ fields, words)
    | fields => return (some (fields, words, usesDefault), [], [])

/-- Finds out what the first field of a command stands for, looking through the command that runs
another one. -/
def planFirst (capture : Command → Sh RawText) :
    Nat → CommandPlan → List ShellWord → Sh (CommandPlan × List ShellWord)
  | 0, plan, words => return (plan, words)
  | fuel + 1, plan, words => do
    match plan.fields with
    | [] => return (plan, words)
    | name :: rest =>
      let path := plan.path?.getD (← searchPath)
      let found ← findCommand name path plan.skipsFunctions false
      match found with
      | .builtin kind =>
        let isSpecial := if plan.found.isSome then plan.isSpecial else kind.isSpecial
        let plan :=
          { plan with
            found := some found, isSpecial := isSpecial, isLocal := !isSpecial
            isExec := name == raw "exec" }
        if name != raw "command" then return (plan, words)
        match ← commandArguments capture 1000 rest words [name] plan.path?.isSome with
        | (none, fields, words) => return ({ plan with fields := fields }, words)
        | (some (fields, words, usesDefault), _, _) =>
          planFirst capture fuel
            { plan with
              fields := fields, skipsFunctions := true
              path? := if usesDefault then some defaultSearchPath else plan.path? }
            words
      | found => return ({ plan with found := some found, isLocal := true }, words)

/-- Expands the words of a simple command. -/
def planCommand (capture : Command → Sh RawText) (words : List ShellWord) : Sh CommandPlan := do
  let (fields, words) ← expandFirst capture words
  let (plan, words) ← planFirst capture 100 { fields := fields } words
  let declares :=
    match plan.found with
    | some (.builtin kind) => kind.declares
    | _ => false
  let mut fields := plan.fields
  for word in words do
    if declares && isAssignment word then
      fields := fields ++ [← expandAssignment capture word]
    else fields := fields ++ (← expandFields capture word)
  return { plan with fields := fields }

/-- Assigns in front of a command; the texts assigned are given for the trace. -/
def assignAll (capture : Command → Sh RawText) (isLocal exports : Bool) :
    List ShellWord → Sh (List RawText)
  | [] => return []
  | word :: words => do
    let text ← expandAssignment capture word
    let (name, value?) := nameAndValue text
    if isLocal then makeLocal text true else Sh.setMarked name value? exports false
    return text :: (← assignAll capture isLocal exports words)

/-- Writes a command before it is run, to where messages went before its redirections. -/
def traceCommand (texts : List RawText) : Sh Unit := do
  if ← Sh.hasOption 'x' then
    let start := (← Sh.valueOf? (raw "PS4")).getD []
    let number :=
      match (← get).savedDescriptors with
      | frame :: _ => ((frame.lookup 2).bind id).getD 2
      | [] => 2
    let _ ← Sh.writeNow number (start ++ [' '].intercalate texts ++ ['\n'])

/-- Runs `after` unless the shell is about to end. -/
def thenUnlessEnding (action : Sh Unit) (after : Sh Unit) : Sh Unit := do
  tryCatch action fun interruption => do
    match interruption with
    | .skipped _ => after
    | _ => pure ()
    throw interruption
  after

/-- Throws what a command of the shell asked to be skipped. -/
def throwSkip : Sh Unit := do
  match (← get).skip with
  | none => return
  | some skip =>
    modify fun state => { state with skip := none }
    throw (.skipped skip)

/-- Runs the body of a loop, and gives what it asked to be skipped. -/
def skipOf (action : Sh Unit) : Sh (Option Skip) :=
  tryCatch (do
      action
      return none)
    fun
      | .skipped skip => return some skip
      | other => throw other

/-- Whether a loop goes on after what was skipped in it; skips of other loops are passed on. -/
def goesOn : Option Skip → Sh Bool
  | none => return true
  | some (.breakLoop 1) => return false
  | some (.continueLoop 1) => return true
  | some (.breakLoop n) => throw (.skipped (.breakLoop (n - 1)))
  | some (.continueLoop n) => throw (.skipped (.continueLoop (n - 1)))
  | some skip => throw (.skipped skip)

def withinLoop (action : Sh Unit) : Sh Unit := do
  modify fun state => { state with loopDepth := state.loopDepth + 1 }
  Sh.thenAlways action (modify fun state => { state with loopDepth := state.loopDepth - 1 })

def setLine (line : Nat) : Sh Unit :=
  modify fun state => { state with line := line }

/-- Runs the program of a command in a process of its own, or in place of the shell. -/
def runProgram (manner : Manner) (name path : RawText) (arguments : List RawText) : Sh Unit := do
  if manner.exits && !(← hasTraps) then replaceShell name path arguments
  else
    let _ ← Sh.flush
    let id ← forkShell do
      for (signal, action) in (← get).traps do
        if !action.isEmpty && signal != 0 then ask (.handle signal .usual)
      tryCatch (replaceShell name path arguments) fun _ => pure ()
    Sh.setStatus (← waitForCommand [id])

mutual

/-- Runs the actions for the signals that have come. -/
def runTraps : Nat → Sh Unit
  | 0 => return
  | fuel + 1 => do
    if (← get).traps.any fun entry => entry.1 != 0 && !entry.2.isEmpty then collectSignals 100
    let state ← get
    if state.pendingSignals.isEmpty then return
    let last := state.trapStatus
    let status := last.getD state.status
    modify fun state => { state with pendingSignals := [], trapStatus := some status }
    for signal in (List.range signalCount).filter state.pendingSignals.contains do
      match ← trapOf? signal with
      | none => pure ()
      | some action =>
        match ← skipOf (runText fuel {} action) with
        | none => Sh.setStatus status
        | some skip =>
          modify fun state => { state with trapStatus := last }
          if skip != .function true then Sh.setStatus status
          throw (.skipped skip)
    modify fun state => { state with trapStatus := last }

/-- Runs the commands of a text, and gives the status of the last of them. -/
def runInput : Nat → Manner → Input → Nat → Sh Nat
  | 0, _, _, status => return status
  | fuel + 1, manner, input, status => do
    match ← readNext input with
    | (.finished, _) => return status
    | (.nothing, input) =>
      runTraps fuel
      runInput fuel manner input status
    | (.command command, input) =>
      let isLast := input.pushedBack && input.last == .endOfFile
      evaluate fuel { manner with exits := manner.exits && isLast } command
      runInput fuel manner input (← Sh.getStatus)

def runText : Nat → Manner → RawText → Sh Unit
  | 0, _, _ => return
  | fuel + 1, manner, text => do
    let _ ← runInput fuel manner (inputOfText text) 0

/-- Leaves the shell: runs the action for its end. -/
def leaveShell : Nat → Sh Unit
  | 0 => return
  | fuel + 1 => do
    unwindSaved 1000 0
    let status ← Sh.getStatus
    match ← trapOf? 0 with
    | none => pure ()
    | some action =>
      modify fun state =>
        { state with
          traps := state.traps.filter fun entry => entry.1 != 0
          trapStatus := some status, loopDepth := 0, currentCommand := none, skip := none }
      tryCatch
        (do
          runText fuel {} action
          Sh.setStatus status)
        fun
          | .skipped _ => Sh.setStatus status
          | _ => pure ()
      unwindSaved 1000 0
    let _ ← Sh.flush

/-- Runs what a process of the shell has to do, to its end. -/
def runToEnd : Nat → Sh Unit → Sh Unit
  | 0, _ => return
  | fuel + 1, body => do
    tryCatch body fun _ => pure ()
    leaveShell fuel

/-- What a command prints, when it is run in a subshell. -/
def capture : Nat → Command → Sh RawText
  | 0, _ => return []
  | fuel + 1, command => do
    let _ ← Sh.flush
    let (reader, writer) ← ask .openPipe
    let id ← forkShell (runToEnd fuel do
      enterSubshell
      let _ ← ask (.close reader)
      if writer != 1 then
        let _ ← ask (.copyTo writer 1)
        let _ ← ask (.close writer)
      evaluate fuel { exits := true } command)
    let _ ← ask (.close writer)
    let text ← readAll reader
    let _ ← ask (.close reader)
    let status ← waitForCommand [id]
    modify fun state => { state with substitutionStatus := status }
    return text

/-- Runs a function in place of the command that called it. -/
def runFunction : Nat → Manner → Command → List RawText → Sh Unit
  | 0, _, _, _ => return
  | fuel + 1, manner, body, arguments => do
    let before ← get
    modify fun state =>
      { state with
        positional := arguments, loopDepth := 0
        optionIndex := 1, optionPlace := none }
    let restore : Sh Unit := modify fun state =>
      { state with
        positional := before.positional, loopDepth := before.loopDepth
        optionIndex := before.optionIndex, optionPlace := before.optionPlace }
    Sh.thenAlways
      (do
        match ← skipOf (evaluate fuel { isTested := manner.isTested } body) with
        | none | some (.function _) => pure ()
        | some skip => throw (.skipped skip))
      restore

/-- Runs a script in this shell. -/
def runScriptHere : Nat → List RawText → Sh Nat
  | 0, _ => return 0
  | fuel + 1, arguments => do
    let (_, rest) ← plainOptions "" arguments
    match rest with
    | [] => return 0
    | name :: _ =>
      let path ← scriptPath name
      let text ← readScript path
      modify fun state => { state with currentCommand := some path }
      tryCatch (runInput fuel {} (inputOfText text) 0)
        fun
          | .skipped (.function _) => Sh.getStatus
          | other => throw other

/-- Runs a command of the shell itself. -/
def runBuiltin : Nat → Manner → Bool → RawText → List RawText → Sh Unit
  | 0, _, _, _, _ => return
  | fuel + 1, manner, isSpecial, name, arguments => do
    let before := (← get).currentCommand
    modify fun state => { state with currentCommand := some name }
    let restore : Sh Unit := modify fun state => { state with currentCommand := before }
    let body : Sh Nat :=
      match String.ofList name with
      | "eval" =>
        if arguments.isEmpty then return 0
        else
          runInput fuel { isTested := manner.isTested }
            (inputOfText ([' '].intercalate arguments)) 0
      | "." => runScriptHere fuel arguments
      | "exec" => runExec arguments
      | _ => runPlainBuiltin name arguments
    tryCatch
      (do
        let status ← body
        let isWritten ← Sh.flush
        if !isWritten then Sh.warn (name ++ raw ": I/O error")
        Sh.setStatus (if isWritten then status else status ||| 1)
        restore)
      fun interruption => do
        restore
        match interruption with
        | .failure => if isSpecial then throw interruption
        | other => throw other

/-- Runs what a simple command has turned out to be. -/
def runPlan : Nat → Manner → CommandPlan → Sh Unit
  | 0, _, _ => return
  | fuel + 1, manner, plan => do
    match plan.fields with
    | [] => Sh.setStatus (← get).substitutionStatus
    | name :: arguments =>
      let again : Sh FoundCommand := do
        findCommand name (plan.path?.getD (← searchPath)) plan.skipsFunctions false
      let found ←
        match plan.found with
        | some (.builtin kind) => if kind.isRegular then pure (.builtin kind) else again
        | _ => again
      match found with
      | .function body => runFunction fuel manner body arguments
      | .builtin _ => runBuiltin fuel manner plan.isSpecial name arguments
      | .program path => runProgram manner name path arguments
      | .missing fault =>
        Sh.warn (name ++ raw ": " ++ runFaultText fault)
        Sh.setStatus 127
        if plan.isSpecial then throw .failure

def runSimple : Nat → Manner → Nat → List ShellWord → List ShellWord → List Redirection → Sh Unit
  | 0, _, _, _, _, _ => return
  | fuel + 1, manner, line, assignments, words, redirections => do
    ask .step
    modify fun state => { state with line := line, substitutionStatus := 0 }
    let plan ← planCommand (capture fuel) words
    if plan.isLocal then Sh.pushFrame
    let ready ← readyRedirections (capture fuel) redirections
    if !ready.isEmpty then pushSaved
    let leave : Sh Unit := do
      if !ready.isEmpty then popSaved plan.isExec
      if plan.isLocal then Sh.popFrame
    if ← redirectSafely (capture fuel) ready then
      let exports := plan.isExec && 1 < plan.fields.length
      thenUnlessEnding
        (do
          let assigned ← assignAll (capture fuel) plan.isLocal exports assignments
          traceCommand (assigned ++ plan.fields)
          runPlan fuel manner plan)
        leave
    else
      Sh.setStatus 2
      if plan.isSpecial then throw .failure
      leave

/-- Runs the commands of a pipeline from one on, given the end of the pipe before it, and gives
their processes. -/
def startPipeline : Nat → Manner → Bool → Bool → Option Nat → List Command → Sh (List Nat)
  | 0, _, _, _, _, _ => return []
  | _, _, _, _, _, [] => return []
  | fuel + 1, manner, inBackground, isFirst, before, command :: rest => do
    let pipe ← if rest.isEmpty then pure none else some <$> ask .openPipe
    let id ← forkShell (runToEnd fuel do
      enterSubshell
      if inBackground then enterBackground isFirst
      match pipe with
      | some (reader, _) => let _ ← ask (.close reader)
      | none => pure ()
      match before with
      | some number =>
        if 0 < number then
          let _ ← ask (.copyTo number 0)
          let _ ← ask (.close number)
      | none => pure ()
      match pipe with
      | some (_, writer) =>
        if 1 < writer then
          let _ ← ask (.copyTo writer 1)
          let _ ← ask (.close writer)
      | none => pure ()
      evaluate fuel { exits := true, isTested := manner.isTested } command)
    match before with
    | some number => let _ ← ask (.close number)
    | none => pure ()
    match pipe with
    | some (_, writer) => let _ ← ask (.close writer)
    | none => pure ()
    let others ←
      startPipeline fuel manner inBackground false (pipe.map (·.1)) rest
    return id :: others

/-- Runs a loop on; `status` is the status of its body so far. -/
def runLoop : Nat → Manner → Bool → Command → Command → Nat → Sh Unit
  | 0, _, _, _, _, _ => throw .exit
  | fuel + 1, manner, whileSucceeding, condition, body, status => do
    let skip ← skipOf (evaluate fuel { isTested := true } condition)
    match skip with
    | some _ =>
      if ← goesOn skip then runLoop fuel manner whileSucceeding condition body status
      else Sh.setStatus status
    | none =>
      if ((← Sh.getStatus) == 0) != whileSucceeding then Sh.setStatus status
      else if ← goesOn (← skipOf (evaluate fuel manner body)) then
        runLoop fuel manner whileSucceeding condition body (← Sh.getStatus)

def runIteration : Nat → Manner → RawText → Command → List RawText → Sh Unit
  | 0, _, _, _, _ => throw .exit
  | _, _, _, _, [] => return
  | fuel + 1, manner, name, body, value :: values => do
    Sh.setVariable name value
    if ← goesOn (← skipOf (evaluate fuel manner body)) then runIteration fuel manner name body values

/-- Whether one of the patterns matches. -/
def matchesAny : Nat → List ShellWord → RawText → Sh Bool
  | 0, _, _ => return false
  | _, [], _ => return false
  | fuel + 1, pattern :: patterns, text => do
    if matchesPattern (← expandPattern (capture fuel) pattern) text then return true
    else matchesAny fuel patterns text

/-- Runs the first branch with a pattern that matches. -/
def runBranches : Nat → Manner → RawText → List Branch → Sh Unit
  | 0, _, _, _ => return
  | _, _, _, [] => Sh.setStatus 0
  | fuel + 1, manner, text, .mk patterns body :: branches => do
    if ← matchesAny fuel patterns text then
      match body with
      | some body => evaluate fuel manner body
      | none => Sh.setStatus 0
    else runBranches fuel manner text branches

/-- What follows every command: traps are run, and the shell ends if that is asked for or if the
command failed where it must not. -/
def finishCommand : Nat → Manner → Bool → Sh Unit
  | 0, _, _ => return
  | fuel + 1, manner, endsOnFailure => do
    runTraps fuel
    if endsOnFailure && !manner.isTested && (← Sh.getStatus) != 0 && (← Sh.hasOption 'e') then
      throw .exit
    if manner.exits then throw .exit

def evaluate : Nat → Manner → Command → Sh Unit
  | 0, _, _ => throw .exit
  | fuel + 1, manner, command => do
    if ← Sh.hasOption 'n' then return
    runTraps fuel
    let inner : Manner := { isTested := manner.isTested }
    match command with
    | .simple line assignments words redirections =>
      runSimple fuel manner line assignments words redirections
      finishCommand fuel manner true
      throwSkip
    | .redirected line body redirections =>
      setLine line
      let ready ← readyRedirections (capture fuel) redirections
      pushSaved
      Sh.thenAlways
        (do
          if ← redirectSafely (capture fuel) ready then evaluate fuel inner body
          else Sh.setStatus 2)
        (popSaved false)
      finishCommand fuel manner false
    | .subshell line body redirections =>
      setLine line
      let ready ← readyRedirections (capture fuel) redirections
      if manner.exits && !(← hasTraps) then
        enterSubshell
        redirectAll (capture fuel) false ready
        evaluate fuel manner body
      else
        let _ ← Sh.flush
        let id ← forkShell (runToEnd fuel do
          enterSubshell
          redirectAll (capture fuel) false ready
          evaluate fuel { manner with exits := true } body)
        Sh.setStatus (← waitForCommand [id])
      finishCommand fuel manner true
    | .background line body redirections =>
      setLine line
      let ready ← readyRedirections (capture fuel) redirections
      let _ ← Sh.flush
      let id ← forkShell (runToEnd fuel do
        enterSubshell
        enterBackground true
        redirectAll (capture fuel) false ready
        evaluate fuel { exits := true } body)
      addJob [id]
      Sh.setStatus 0
      finishCommand fuel manner true
    | .pipeline inBackground commands =>
      let _ ← Sh.flush
      let ids ← startPipeline fuel manner inBackground true none commands
      if inBackground then
        addJob ids
        Sh.setStatus 0
      else Sh.setStatus (← waitForCommand ids)
      finishCommand fuel manner true
    | .negation body =>
      evaluate fuel { isTested := true } body
      Sh.setStatus (if (← Sh.getStatus) = 0 then 1 else 0)
      finishCommand fuel manner false
    | .conjunction first second =>
      evaluate fuel { isTested := true } first
      if (← Sh.getStatus) = 0 then evaluate fuel manner second
      finishCommand fuel manner false
    | .disjunction first second =>
      evaluate fuel { isTested := true } first
      if (← Sh.getStatus) != 0 then evaluate fuel manner second
      finishCommand fuel manner false
    | .sequence first second =>
      evaluate fuel inner first
      evaluate fuel manner second
      finishCommand fuel manner false
    | .conditional condition body otherwise =>
      evaluate fuel { isTested := true } condition
      if (← Sh.getStatus) = 0 then evaluate fuel manner body
      else
        match otherwise with
        | some other => evaluate fuel manner other
        | none => Sh.setStatus 0
      finishCommand fuel manner false
    | .loop whileSucceeding condition body =>
      withinLoop (runLoop fuel inner whileSucceeding condition body 0)
      finishCommand fuel manner false
    | .iteration line name words body =>
      setLine line
      let mut fields := []
      for word in words do
        fields := fields ++ (← expandFields (capture fuel) word)
      let values := fields
      withinLoop (do
        if values.isEmpty then Sh.setStatus 0
        else runIteration fuel inner name body values)
      finishCommand fuel manner false
    | .selection line subject branches =>
      setLine line
      let text ← expandText (capture fuel) { tilde := true } subject
      runBranches fuel manner text branches
      finishCommand fuel manner false
    | .definition name body =>
      modify fun state =>
        { state with
          functions := (name, body) :: state.functions.filter fun entry => entry.1 != name }
      Sh.setStatus 0
      finishCommand fuel manner false

end

/-! ## Starting a shell -/

/-- The variables that every shell has. -/
def firstVariables (id : Nat) : List Variable :=
  [⟨raw "IFS", some [' ', '\t', '\n'], false, false⟩,
    ⟨raw "PATH", some defaultSearchPath, false, false⟩,
    ⟨raw "PS1", some (raw "# "), false, false⟩, ⟨raw "PS2", some (raw "> "), false, false⟩,
    ⟨raw "PS4", some (raw "+ "), false, false⟩, ⟨raw "OPTIND", some ['1'], false, false⟩,
    ⟨raw "PPID", some (naturalText id), false, false⟩]

/-- Takes over the environment, apart from the variables that the shell sets itself. -/
def takeEnvironment (environment : List (RawText × RawText)) : Sh Unit := do
  for (name, value) in environment do
    if isNameText name then
      if name == raw "IFS" || name == raw "OPTIND" || name == raw "PPID" then
        modify fun state =>
          { state with
            bindings := state.bindings.map fun v =>
              if v.name == name then { v with isExported := true } else v }
      else
        Sh.putVariable ⟨name, some value, true, false⟩

/-- The directory the shell starts in: as the environment calls it, if that is right. -/
def takeDirectory : Sh Unit := do
  let here ← ask (.statusOf ['.'] true)
  let named ← Sh.valueOf? (raw "PWD")
  let isRight ←
    match named with
    | some ('/' :: rest) => do
      match ← ask (.statusOf ('/' :: rest) true), here with
      | .ok there, .ok here => pure (there.node == here.node)
      | _, _ => pure false
    | _ => pure false
  let path ← if isRight then pure (named.getD []) else currentPath
  modify fun state => { state with directory := path }
  Sh.setMarked (raw "PWD") (some path) true false

def fullFuel : Nat := 1000000000000

/-- Runs a shell as its arguments ask: a command, a script, or what it reads from its input. -/
def startShell (call : Invocation) : Sh Unit := do
  let parent ← ask .parentId
  modify fun state => { state with bindings := firstVariables parent }
  takeEnvironment call.environment
  takeDirectory
  let (hasCommand, rest) ← setOptions true (call.arguments.length + 1) call.arguments false
  let setParameters := fun (name : RawText) (positional : List RawText) =>
    modify fun state => { state with commandName := name, positional := positional }
  let readsInput ← Sh.hasOption 's'
  if hasCommand then
    match rest with
    | [] => Sh.fail (raw "-c requires an argument")
    | text :: rest =>
      match rest with
      | [] => pure ()
      | name :: positional => setParameters name positional
      let _ ← runInput fullFuel {} (inputOfText text) 0
  else if !readsInput && !rest.isEmpty then
    match rest with
    | [] => pure ()
    | name :: positional =>
      let text ← readScript name
      setParameters name positional
      let _ ← runInput fullFuel {} (inputOfText text) 0
  else
    modify fun state => { state with positional := rest }
    Sh.setOption 's' true
  if ← Sh.hasOption 's' then
    let text ← readAll 0
    let _ ← runInput fullFuel {} (inputOfText (text.filter (· != '\x00'))) 0

/-- The shell as a program. -/
def shellProgram (call : Invocation) : Action :=
  .ask .ownId fun id =>
    (runToEnd fullFuel (startShell call)).run.run
      { commandName := call.name, rootId := id, line := 0 }
      fun (_, state) => .finish (.exited (state.status % 256))

end KeyJoin.Shell
