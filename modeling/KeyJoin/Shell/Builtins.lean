import KeyJoin.Host.Permissions
import KeyJoin.Host.Signal
import KeyJoin.Shell.Conditions
import KeyJoin.Shell.Expansion
import KeyJoin.Shell.Printing
import KeyJoin.Shell.Redirecting

/-!
# Commands of the shell itself

These commands work on the state of the shell or are part of it for speed.
Each takes its arguments and gives a status; what is wrong with its use stops
it with a message.  Some of them are special: their failure ends the shell, and
what is assigned in front of them lasts.
-/

namespace KeyJoin.Shell

/-- How a command of the shell is treated: special ones end the shell when they fail, and the
arguments of declaring ones are expanded as assignments are. -/
structure BuiltinKind where
  isSpecial : Bool := false
  declares : Bool := false
  isRegular : Bool := true

def builtinKinds : List (String × BuiltinKind) :=
  let special : BuiltinKind := { isSpecial := true }
  let declaring : BuiltinKind := { isSpecial := true, declares := true }
  let other : BuiltinKind := { isRegular := false }
  [(".", special), (":", special), ("[", other), ("alias", {}), ("bg", {}), ("break", special),
    ("cd", {}), ("chdir", other), ("command", {}), ("continue", special), ("echo", other),
    ("eval", special), ("exec", special), ("exit", special), ("export", declaring), ("false", {}),
    ("fg", {}), ("getopts", {}), ("hash", {}), ("jobs", {}), ("kill", {}), ("local", declaring),
    ("printf", other), ("pwd", {}), ("read", {}), ("readonly", declaring), ("return", special),
    ("set", special), ("shift", special), ("test", other), ("times", special), ("trap", special),
    ("true", {}), ("type", {}), ("ulimit", {}), ("umask", {}), ("unalias", {}), ("unset", special),
    ("wait", {})]

def builtinKind? (name : RawText) : Option BuiltinKind :=
  (builtinKinds.find? fun entry => entry.1.toList == name).map (·.2)

def isSpecialBuiltin (name : RawText) : Bool :=
  ((builtinKind? name).map (·.isSpecial)).getD false

/-! ## Arguments -/

/-- The options at the front of arguments with the arguments of options, and what follows them.
The letters in `letters` are known, those in `withArgument` take an argument, and `pending` are the
letters left of the word that is being read. -/
def takeOptions (letters withArgument : String) :
    Nat → RawText → List RawText → Sh (List (Char × RawText) × List RawText)
  | 0, _, arguments => return ([], arguments)
  | fuel + 1, [], arguments =>
    match arguments with
    | ['-', '-'] :: rest => return ([], rest)
    | ('-' :: c :: cs) :: rest => takeOptions letters withArgument fuel (c :: cs) rest
    | arguments => return ([], arguments)
  | fuel + 1, c :: cs, arguments => do
    if withArgument.toList.contains c then
      match cs, arguments with
      | [], [] => Sh.fail (raw "No arg for -" ++ c :: raw " option")
      | [], argument :: rest =>
        let (options, rest) ← takeOptions letters withArgument fuel [] rest
        return ((c, argument) :: options, rest)
      | cs, rest =>
        let (options, rest) ← takeOptions letters withArgument fuel [] rest
        return ((c, cs) :: options, rest)
    else if letters.toList.contains c then
      let (options, rest) ← takeOptions letters withArgument fuel cs arguments
      return ((c, []) :: options, rest)
    else Sh.fail (raw "Illegal option -" ++ [c])

/-- The options of arguments; `letters` are known, and those in `withArgument` take an argument. -/
def optionsOf (letters withArgument : String) (arguments : List RawText) :
    Sh (List Char × List (Char × RawText) × List RawText) := do
  let size := (arguments.map List.length).foldl (· + ·) arguments.length
  let (options, rest) ← takeOptions letters withArgument (2 * size + 2) [] arguments
  return (options.map (·.1), options, rest)

def plainOptions (letters : String) (arguments : List RawText) :
    Sh (List Char × List RawText) := do
  let (options, _, rest) ← optionsOf letters "" arguments
  return (options, rest)

/-- A number of digits only. -/
def numberOf (text : RawText) : Sh Nat := do
  match natural? text with
  | some n => return n
  | none => Sh.fail (raw "Illegal number: " ++ text)

/-- A text in quotes, from which the shell would read it again. -/
def singleQuoted (text : RawText) : RawText :=
  '\'' :: go false text
where
  /-- `inDouble` tells that single quotes are being written, within double ones. -/
  go : Bool → RawText → RawText
    | false, [] => ['\'']
    | true, [] => ['"']
    | false, '\'' :: rest => '\'' :: '"' :: '\'' :: go true rest
    | false, c :: rest => c :: go false rest
    | true, '\'' :: rest => '\'' :: go true rest
    | true, c :: rest => '"' :: '\'' :: c :: go false rest

def putLine (text : RawText) : Sh Unit :=
  Sh.put (text ++ ['\n'])

/-! ## Aliases -/

def aliasText (entry : RawText × RawText) : RawText :=
  entry.1 ++ '=' :: singleQuoted entry.2

def setAlias (name value : RawText) : Sh Unit :=
  modify fun state =>
    if state.aliases.any fun entry => entry.1 == name then
      { state with
        aliases := state.aliases.map fun entry => if entry.1 == name then (name, value) else entry }
    else { state with aliases := state.aliases ++ [(name, value)] }

def sayNotFound (command name : RawText) : Sh Unit := do
  let _ ← Sh.writeNow 2 (command ++ raw ": " ++ name ++ raw " not found\n")

def runAlias (arguments : List RawText) : Sh Nat := do
  if arguments.isEmpty then
    for entry in (← get).aliases.mergeSort fun a b => Sh.bucketOf a.1 ≤ Sh.bucketOf b.1 do
      putLine (aliasText entry)
    return 0
  let mut status := 0
  for argument in arguments do
    let name := argument.take 1 ++ (argument.drop 1).takeWhile (· != '=')
    if name.length < argument.length then setAlias name (argument.drop (name.length + 1))
    else
      match (← get).aliases.lookup argument with
      | some value => putLine (aliasText (argument, value))
      | none =>
        sayNotFound (raw "alias") argument
        status := 1
  return status

def runUnalias (arguments : List RawText) : Sh Nat := do
  let (options, names) ← plainOptions "a" arguments
  if options.contains 'a' then
    modify fun state => { state with aliases := [] }
    return 0
  let mut status := 0
  for name in names do
    if ((← get).aliases.lookup name).isSome then
      modify fun state => { state with aliases := state.aliases.filter fun entry => entry.1 != name }
    else
      sayNotFound (raw "unalias") name
      status := 1
  return status

/-! ## Directories -/

/-- A path from the root with the parts that stay or go up taken out. -/
def plainPath (directory path : RawText) : RawText :=
  let start :=
    if path.head? == some '/' then [] else (splitAtAll '/' directory).filter fun part => !part.isEmpty
  let parts := (splitAtAll '/' path).foldl
    (fun parts part =>
      if part.isEmpty || part == ['.'] then parts
      else if part == ['.', '.'] then parts.dropLast
      else parts ++ [part])
    start
  '/' :: ['/'].intercalate parts

def currentPath : Sh RawText := do
  return '/' :: ['/'].intercalate (← ask .directory)

/-- Goes to a directory and notes where the shell is and was. -/
def changeDirectory (isPhysical : Bool) (path : RawText) : Sh Bool := do
  let old := (← get).directory
  let target := if isPhysical || old.isEmpty then path else plainPath old path
  match ← ask (.changeDirectory target) with
  | .error _ => return false
  | .ok () =>
    let now ← if isPhysical || old.isEmpty then currentPath else pure target
    modify fun state => { state with directory := now }
    Sh.setMarked (raw "OLDPWD") (some old) true false
    Sh.setMarked (raw "PWD") (some now) true false
    return true

def isDirectoryAt (path : RawText) : Sh Bool := do
  match ← ask (.statusOf path true) with
  | .ok status => return status.kind == .directory
  | .error _ => return false

/-- Whether a path is looked for from the current directory only. -/
def startsAtDots (path : RawText) : Bool :=
  match path with
  | '/' :: _ | ['.'] | ['.', '.'] | '.' :: '/' :: _ | '.' :: '.' :: '/' :: _ => true
  | _ => false

def inFolder (folder name : RawText) : RawText :=
  if folder.isEmpty then name else folder ++ '/' :: name

/-- The directory that a name means when it is looked for in a list of folders, and whether it was
found in a folder that has a name. -/
def searchDirectory (name : RawText) : List RawText → Sh (Option (RawText × Bool))
  | [] => return none
  | folder :: folders => do
    if ← isDirectoryAt (inFolder folder name) then
      return some (inFolder folder name, !folder.isEmpty)
    searchDirectory name folders

def runChangeDirectory (arguments : List RawText) : Sh Nat := do
  let (options, rest) ← plainOptions "PL" arguments
  let isPhysical := options.getLast? == some 'P'
  let (target?, shows) ←
    match rest.head? with
    | none => pure (← Sh.valueOf? (raw "HOME"), false)
    | some ['-'] => pure (← Sh.valueOf? (raw "OLDPWD"), true)
    | some path => pure (some path, false)
  let target := target?.getD []
  let sought := if target.isEmpty then ['.'] else target
  let (path, shows) ←
    if startsAtDots target then pure (target, shows)
    else do
      let folders := splitAtAll ':' ((← Sh.valueOf? (raw "CDPATH")).getD [])
      match ← searchDirectory sought folders with
      | some (path, isNamed) => pure (path, shows || isNamed)
      | none => pure (sought, shows)
  if ← changeDirectory isPhysical path then
    if shows then putLine (← get).directory
    return 0
  Sh.fail (raw "can't cd to " ++ target)

def runPrintDirectory (arguments : List RawText) : Sh Nat := do
  let (options, _) ← plainOptions "LP" arguments
  let path ← if options.getLast? == some 'P' then currentPath else pure (← get).directory
  putLine path
  return 0

/-! ## Variables -/

def sortedVariables (p : Variable → Bool) : Sh (List Variable) := do
  let known := (← get).bindings.filter p
  return known.mergeSort fun a b => textBefore a.name b.name

def showVariables (start : RawText) (p : Variable → Bool) : Sh Unit := do
  for v in ← sortedVariables p do
    let value :=
      match v.value? with
      | some value => '=' :: singleQuoted value
      | none => []
    putLine (start ++ v.name ++ value)

/-- The name and, after an equals sign, the value. -/
def nameAndValue (text : RawText) : RawText × Option RawText :=
  match splitAtFirst? (· == '=') text with
  | some (name, value) => (name, some value)
  | none => (text, none)

def runDeclare (name : RawText) (marksReadonly : Bool) (arguments : List RawText) : Sh Nat := do
  let (options, rest) ← plainOptions "p" arguments
  if options.isEmpty && !rest.isEmpty then
    for argument in rest do
      let (variableName, value?) := nameAndValue argument
      Sh.setMarked variableName value? (!marksReadonly) marksReadonly
    return 0
  showVariables (name ++ [' ']) fun v => if marksReadonly then v.isReadonly else v.isExported
  return 0

/-- Keeps what a name stands for until the function is left; a dash stands for the options. -/
def makeLocal (argument : RawText) (exports : Bool) : Sh Unit := do
  if argument == ['-'] then
    modify fun state =>
      match state.frames with
      | frame :: frames =>
        { state with frames := (⟨[], none, some state.options⟩ :: frame) :: frames }
      | [] => state
  else
    let (name, value?) := nameAndValue argument
    Sh.saveVariable name
    Sh.setMarked name value? exports false

def runLocal (arguments : List RawText) : Sh Nat := do
  if (← get).frames.isEmpty then Sh.fail (raw "not in a function")
  for argument in arguments do
    makeLocal argument false
  return 0

def runUnset (arguments : List RawText) : Sh Nat := do
  let (options, names) ← plainOptions "vf" arguments
  for name in names do
    if options.getLast? == some 'f' then
      modify fun state =>
        { state with functions := state.functions.filter fun entry => entry.1 != name }
    else Sh.unsetVariable name
  return 0

def runShift (arguments : List RawText) : Sh Nat := do
  let count ← match arguments with
    | [] => pure 1
    | text :: _ => numberOf text
  if (← get).positional.length < count then Sh.fail (raw "can't shift that many")
  modify fun state =>
    { state with positional := state.positional.drop count, optionIndex := 1, optionPlace := none }
  return 0

/-! ## Options -/

def setLetter (c : Char) (isOn : Bool) : Sh Unit := do
  if !(Sh.optionLetters.any fun letter => letter == c && c.isAlpha) then
    Sh.fail (raw "Illegal option -" ++ [c])
  Sh.setOption c isOn
  if isOn && c == 'V' then Sh.setOption 'E' false
  if isOn && c == 'E' then Sh.setOption 'V' false

def showOptions (isOn : Bool) : Sh Unit := do
  let state ← get
  if isOn then putLine (raw "Current option settings")
  for (name, letter) in Sh.optionNames.zip Sh.optionLetters do
    let isSet := state.options.contains letter
    if isOn then putLine (padRight 16 name.toList ++ raw (if isSet then "on" else "off"))
    else putLine (raw (if isSet then "set -o " else "set +o ") ++ name.toList)

def setNamed (name : RawText) (isOn : Bool) : Sh Unit := do
  match (Sh.optionNames.zip Sh.optionLetters).find? fun entry => entry.1.toList == name with
  | some (_, letter) => Sh.setOption letter isOn
  | none => Sh.fail (raw "Illegal option -o " ++ name)

/-- Reads option letters; those that ask for a name take the next argument. -/
def setLetters (isStart isOn : Bool) : RawText → List RawText → Sh (Option RawText × List RawText)
  | [], rest => return (none, rest)
  | c :: cs, rest => do
    if c == 'o' then
      match rest with
      | [] =>
        showOptions isOn
        setLetters isStart isOn cs []
      | name :: rest =>
        setNamed name isOn
        setLetters isStart isOn cs rest
    else if isStart && c == 'l' then setLetters isStart isOn cs rest
    else if isStart && c == 'c' then
      let (_, rest) ← setLetters isStart isOn cs rest
      return (some [], rest)
    else
      setLetter c isOn
      setLetters isStart isOn cs rest

/-- Reads options.  At the start of the shell there is one that asks for a command; the first part
of the answer tells whether it was met. -/
def setOptions (isStart : Bool) : Nat → List RawText → Bool → Sh (Bool × List RawText)
  | 0, arguments, hasCommand => return (hasCommand, arguments)
  | fuel + 1, arguments, hasCommand => do
    match arguments with
    | ['-'] :: rest =>
      if !isStart then
        Sh.setOption 'x' false
        Sh.setOption 'v' false
      return (hasCommand, rest)
    | ['-', '-'] :: rest =>
      if !isStart && rest.isEmpty then modify fun state => { state with positional := [] }
      return (hasCommand, rest)
    | ('-' :: cs) :: rest =>
      let (command, rest) ← setLetters isStart true cs rest
      setOptions isStart fuel rest (hasCommand || command.isSome)
    | ('+' :: cs) :: rest =>
      let (command, rest) ← setLetters isStart false cs rest
      setOptions isStart fuel rest (hasCommand || command.isSome)
    | arguments => return (hasCommand, arguments)

def runSet (arguments : List RawText) : Sh Nat := do
  if arguments.isEmpty then
    showVariables [] fun v => v.value?.isSome
    return 0
  let (_, rest) ← setOptions false (arguments.length + 1) arguments false
  if !rest.isEmpty then
    modify fun state => { state with positional := rest, optionIndex := 1, optionPlace := none }
  return 0

/-- The letters of options, each with whether it takes an argument. -/
def optionDeclarations : RawText → List (Char × Bool)
  | [] => []
  | [c] => [(c, false)]
  | c :: ':' :: rest => (c, true) :: optionDeclarations rest
  | c :: d :: rest => (c, false) :: optionDeclarations (d :: rest)

/-- How reading an option ended: its letter, the rest of its word if there is one, whether there
are no more, and what is to be said of it. -/
structure OptionRead where
  letter : Char := '?'
  place : Option Nat := none
  index : Nat
  isDone : Bool := false
  argument : Option (Option RawText) := none
  message : RawText := []

/-- Reads the next option from the words, of which the one before `index` may be read in part. -/
def readOption (declared : RawText) (words : List RawText) (index : Nat) (place : Option Nat) :
    OptionRead :=
  let silent := declared.head? == some ':'
  let index := max index 1
  let partly : Option (RawText × Nat) :=
    match place with
    | none => none
    | some n =>
      if index ≤ 1 then none
      else
        let word := words.getD (index - 2) []
        if n < word.length then some (word.drop n, index) else none
  let next : Option (RawText × Nat) × Nat :=
    match partly with
    | some found => (some found, index)
    | none =>
      match words[index - 1]? with
      | some ['-', '-'] => (none, index + 1)
      | some ('-' :: c :: cs) => (some (c :: cs, index + 1), index + 1)
      | _ => (none, index)
  match next with
  | (none, index) => { index := index, isDone := true }
  | (some ([], index), _) => { index := index, isDone := true }
  | (some (c :: cs, index), _) =>
    let restPlace := if cs.isEmpty then none
      else some ((words.getD (index - 2) []).length - cs.length)
    match (optionDeclarations declared).find? fun entry => entry.1 == c with
    | none =>
      { letter := '?', index := index, place := restPlace
        argument := if silent then some (some [c]) else some none
        message := if silent then [] else raw "Illegal option -" ++ [c] }
    | some (_, false) =>
      { letter := c, index := index, place := restPlace, argument := some (some []) }
    | some (_, true) =>
      if !cs.isEmpty then { letter := c, index := index, argument := some (some cs) }
      else
        match words[index - 1]? with
        | some argument => { letter := c, index := index + 1, argument := some (some argument) }
        | none =>
          { letter := if silent then ':' else '?', index := index
            argument := if silent then some (some [c]) else some none
            message := if silent then [] else raw "No arg for -" ++ c :: raw " option" }

def runReadOption (arguments : List RawText) : Sh Nat := do
  match arguments with
  | declared :: name :: words =>
    let state ← get
    let words := if words.isEmpty then state.positional else words
    let found := readOption declared words state.optionIndex state.optionPlace
    if !found.message.isEmpty then let _ ← Sh.writeNow 2 (found.message ++ ['\n'])
    match found.argument with
    | some (some text) => Sh.setVariable (raw "OPTARG") text
    | some none => Sh.unsetVariable (raw "OPTARG")
    | none => pure ()
    Sh.setVariable (raw "OPTIND") (naturalText found.index)
    modify fun state => { state with optionIndex := found.index, optionPlace := found.place }
    Sh.setVariable name [found.letter]
    return if found.isDone then 1 else 0
  | _ => Sh.fail (raw "Usage: getopts optstring var [arg...]")

/-! ## Input and output -/

def runEcho (arguments : List RawText) : Sh Nat := do
  Sh.put (echoText arguments)
  return 0

def runFormat (arguments : List RawText) : Sh Nat := do
  let (_, rest) ← plainOptions "" arguments
  match rest with
  | [] => Sh.fail (raw "usage: printf format [arg ...]")
  | format :: arguments =>
    let (stop?, state) := formatArguments format arguments
    Sh.put state.out.reverse.flatten
    for (argument, fault) in state.faults do
      Sh.warn (argument ++ raw ": " ++ raw fault.description)
    match stop?.bind FormatStop.message? with
    | some message => Sh.fail message
    | none => return if state.faults.isEmpty then 0 else 1

/-- Puts the characters of a line for separation into fields; a backslash protects the character
after it.  The answer tells whether the line ends in a backslash, so that the next one belongs to
it. -/
def putInputLine (isRaw : Bool) : RawText → Nat → Expanded → Bool × Nat × Expanded
  | [], first, out => (false, first, out)
  | '\x00' :: rest, first, out => putInputLine isRaw rest first out
  | ['\\', '\n'], first, out => if isRaw then (false, first, out.put (.plain '\\'))
    else (true, first, out)
  | ['\n'], first, out => (false, first, out)
  | '\\' :: c :: rest, first, out =>
    if isRaw then putInputLine isRaw (c :: rest) first (out.put (.plain '\\'))
    else
      let out := (out.record first false).put (.quoted c)
      putInputLine isRaw rest out.size out
  | ['\\'], first, out => (false, first, if isRaw then out.put (.plain '\\') else out)
  | c :: rest, first, out => putInputLine isRaw rest first (out.put (.plain c))

/-- Reads a line, and the lines that it goes on with; the answer tells whether it was ended. -/
def readInputLine (isRaw : Bool) : Nat → Nat → Expanded → Sh (Bool × Expanded)
  | 0, first, out => return (false, out.record first false)
  | fuel + 1, first, out => do
    match ← ask (.readLine 0) with
    | .error _ => return (false, out.record first false)
    | .ok text =>
      let (goesOn, first, out) := putInputLine isRaw text first out
      if goesOn then
        let out := out.record first false
        readInputLine isRaw fuel out.size out
      else return (text.getLast? == some '\n', out.record first false)

def runRead (arguments : List RawText) : Sh Nat := do
  let (options, _, names) ← optionsOf "r" "p" arguments
  if names.isEmpty then Sh.fail (raw "arg count")
  let (isEnded, out) ← readInputLine (options.contains 'r') 1000000 0 {}
  let fields := splitFields (← Sh.fieldSeparators) (some names.length) out
  for (name, n) in names.zipIdx do
    Sh.setVariable name (pieceText (fields.getD n []))
  return if isEnded then 0 else 1

/-! ## Conditions and numbers -/

def runTest (words : List RawText) : Sh Nat := do
  return if ← conditionHolds (words.length + 2) words then 0 else 1

def runBracket (words : List RawText) : Sh Nat := do
  if (words.getLast?.bind List.head?) != some ']' then Sh.fail (raw "missing ]")
  runTest words.dropLast

def runMask (arguments : List RawText) : Sh Nat := do
  let (options, rest) ← plainOptions "S" arguments
  let mask ← ask (.setMask 0)
  let _ ← ask (.setMask mask)
  match rest with
  | [] =>
    if options.contains 'S' then
      let allowed := 0o777 ^^^ (mask &&& 0o777)
      putLine (raw "u=" ++ threeLetters (allowed / 64) ++ raw ",g=" ++
        threeLetters (allowed / 8 % 8) ++ raw ",o=" ++ threeLetters (allowed % 8))
    else putLine (padZeros 4 (digitsInBase 8 mask))
    return 0
  | text :: _ =>
    if (text.head?.map Char.isDigit).getD false then
      if !text.all isOctalDigit then Sh.fail (raw "Illegal number: " ++ text)
      let _ ← ask (.setMask (readInBase 8 text))
      return 0
    match changedPermissions? 0 false (0o777 ^^^ (mask &&& 0o777)) text with
    | some mode =>
      let _ ← ask (.setMask (0o777 ^^^ (mode &&& 0o777)))
      return 0
    | none => Sh.fail (raw "Illegal mode: " ++ text)

def limitRows : List (Char × String × String) :=
  [('t', "time(seconds)        ", "unlimited"), ('f', "file(blocks)         ", "unlimited"),
    ('d', "data(kbytes)         ", "unlimited"), ('s', "stack(kbytes)        ", "8192"),
    ('c', "coredump(blocks)     ", "0"), ('m', "memory(kbytes)       ", "unlimited"),
    ('l', "locked memory(kbytes) ", "8192"), ('p', "process              ", "unlimited"),
    ('n', "nofiles              ", "1048576"), ('v', "vmemory(kbytes)      ", "unlimited"),
    ('w', "locks                ", "unlimited"), ('r', "rtprio               ", "0")]

def runLimit (arguments : List RawText) : Sh Nat := do
  let (options, rest) ← plainOptions "HSatfdscmlpnvwr" arguments
  if options.contains 'a' then
    for (_, name, value) in limitRows do
      putLine (raw name ++ raw value)
    return 0
  if !rest.isEmpty then return 0
  let letter := ((options.filter fun c => c != 'H' && c != 'S').getLast?).getD 'f'
  match limitRows.lookup letter with
  | some (_, value) => putLine (raw value)
  | none => pure ()
  return 0

def runTimes : Sh Nat := do
  putLine (raw "0m0.000000s 0m0.000000s")
  putLine (raw "0m0.000000s 0m0.000000s")
  return 0

/-! ## Finding commands -/

inductive FoundCommand
  | function (body : Command)
  | builtin (kind : BuiltinKind)
  | program (path : RawText)
  | missing (fault : SystemFault)

def defaultSearchPath : RawText :=
  raw "/usr/local/sbin:/usr/local/bin:/usr/sbin:/usr/bin:/sbin:/bin"

def searchPath : Sh RawText := do
  return (← Sh.valueOf? (raw "PATH")).getD []

/-- The program of a name in the first of the folders that holds one. -/
def searchFolders (name : RawText) : SystemFault → List RawText → Sh (Except SystemFault RawText)
  | fault, [] => return .error fault
  | fault, folder :: folders => do
    let path := inFolder folder name
    match ← ask (.statusOf path true) with
    | .error .notFound | .error .notADirectory => searchFolders name fault folders
    | .error fault => searchFolders name fault folders
    | .ok status =>
      if status.kind == .regular && status.permissions &&& 0o111 != 0 then return .ok path
      else searchFolders name .permissionDenied folders

def searchProgram (name path : RawText) : Sh (Except SystemFault RawText) :=
  searchFolders name .notFound (splitAtAll ':' path)

/-- What a name stands for as a command.  A path is not looked at until it is run, unless
`checksPath` asks for it. -/
def findCommand (name path : RawText) (skipsFunctions checksPath : Bool) : Sh FoundCommand := do
  if name.contains '/' then
    if checksPath then
      match ← ask (.statusOf name true) with
      | .ok _ => return .program name
      | .error fault => return .missing fault
    return .program name
  match (← get).functions.find? fun entry => entry.1 == name && !skipsFunctions with
  | some (_, body) => return .function body
  | none =>
    match builtinKind? name with
    | some kind => return .builtin kind
    | none =>
      match (← get).hashed.lookup name with
      | some found => return .program found
      | none =>
        match ← searchProgram name path with
        | .ok found =>
          if path == (← searchPath) then
            modify fun state => { state with hashed := state.hashed ++ [(name, found)] }
          return .program found
        | .error fault => return .missing fault

/-- Tells what a name stands for, in words or so that it can be used again. -/
def describeCommand (isVerbose : Bool) (path : Option RawText) (name : RawText) : Sh Nat := do
  let start := if isVerbose then name else []
  let state ← get
  if (keyword? name).isSome then
    putLine (start ++ if isVerbose then raw " is a shell keyword" else name)
    return 0
  match state.aliases.lookup name with
  | some value =>
    if isVerbose then putLine (start ++ raw " is an alias for " ++ value)
    else putLine (raw "alias " ++ aliasText (name, value))
    return 0
  | none =>
    let isTracked := path.isNone && (state.hashed.lookup name).isSome
    match ← findCommand name (path.getD (← searchPath)) false true with
    | .function .. =>
      putLine (start ++ if isVerbose then raw " is a shell function" else name)
      return 0
    | .builtin kind =>
      let special := if kind.isSpecial then raw "special " else []
      putLine (start ++ if isVerbose then raw " is a " ++ special ++ raw "shell builtin" else name)
      return 0
    | .program found =>
      if isVerbose then
        let tracked := if isTracked then raw " a tracked alias for" else []
        putLine (start ++ raw " is" ++ tracked ++ ' ' :: found)
      else putLine found
      return 0
    | .missing _ =>
      if isVerbose then putLine (start ++ raw ": not found")
      return 127

def runType (names : List RawText) : Sh Nat := do
  let mut status := 0
  for name in names do
    status := status ||| (← describeCommand true none name)
  return status

/-- The command that is left when no other command is to be run by it. -/
def runCommandQuery (arguments : List RawText) : Sh Nat := do
  let (options, rest) ← plainOptions "pvV" arguments
  match rest with
  | [] => return 0
  | name :: _ =>
    if options.contains 'v' || options.contains 'V' then
      let path := if options.contains 'p' then some defaultSearchPath else none
      describeCommand (options.contains 'V') path name
    else return 0

def runHash (arguments : List RawText) : Sh Nat := do
  let (options, names) ← plainOptions "r" arguments
  if options.contains 'r' then
    modify fun state => { state with hashed := [] }
    return 0
  if names.isEmpty then
    for (_, path) in (← get).hashed do
      putLine path
    return 0
  let mut status := 0
  for name in names do
    match ← findCommand name (← searchPath) false false with
    | .missing fault =>
      Sh.warn (name ++ raw ": " ++ runFaultText fault)
      status := 1
    | _ => pure ()
  return status

/-! ## Traps -/

def trapOf? (signal : Nat) : Sh (Option RawText) := do
  return (← get).traps.lookup signal

def showTraps : Sh Unit := do
  let traps := (← get).traps
  for signal in List.range signalCount do
    match traps.lookup signal with
    | some action =>
      putLine (raw "trap -- " ++ singleQuoted action ++ ' ' :: raw (signalName signal))
    | none => pure ()

/-- Sets or clears the action for a signal.  A signal that was ignored when the shell was started
stays ignored. -/
def setTrap (signal : Nat) (action? : Option RawText) : Sh Unit := do
  if signal != 0 && (← trapOf? signal).isNone then
    if (← ask (.dispositionOf signal)) == .ignored then
      modify fun state => { state with inheritedIgnored := signal :: state.inheritedIgnored }
  modify fun state =>
    let others := state.traps.filter fun entry => entry.1 != signal
    { state with
      traps := match action? with
        | some action => (signal, action) :: others
        | none => others }
  if signal != 0 && !(← get).inheritedIgnored.contains signal then
    let disposition : Disposition :=
      match action? with
      | none => .usual
      | some [] => .ignored
      | some _ => .caught
    ask (.handle signal disposition)

/-- Sets one trap after the other, up to a signal that is not known. -/
def setTraps (action? : Option RawText) : List RawText → Sh Nat
  | [] => return 0
  | name :: names => do
    match signalOf? 0 name with
    | none =>
      let _ ← Sh.writeNow 2 (raw "trap: " ++ name ++ raw ": bad trap\n")
      return 1
    | some signal =>
      setTrap signal action?
      setTraps action? names

def runTrap (arguments : List RawText) : Sh Nat := do
  let (_, rest) ← plainOptions "" arguments
  match rest with
  | [] =>
    showTraps
    return 0
  | [name] => setTraps none [name]
  | action :: names =>
    if (natural? action).isSome && (signalOf? 0 action).isSome then setTraps none rest
    else setTraps (if action == ['-'] then none else some action) names

/-! ## Jobs -/

def jobIsDone (job : Job) : Bool :=
  job.processes.all fun entry => entry.2 != .running

def jobStatus (job : Job) : Nat :=
  match job.processes.getLast? with
  | some (_, .done ending) => ending.status
  | _ => 0

/-- Notes that a process of a job has ended. -/
def noteEnding (id : Nat) (ending : Ending) : Sh Unit :=
  modify fun state =>
    { state with
      jobs := state.jobs.map fun job =>
        { job with
          processes := job.processes.map fun entry =>
            if entry.1 == id then (id, .done ending) else entry } }

/-- Takes the signals that have come for the shell. -/
def collectSignals : Nat → Sh Unit
  | 0 => return
  | fuel + 1 => do
    match ← ask .takeSignal with
    | none => return
    | some signal =>
      modify fun state => { state with pendingSignals := state.pendingSignals ++ [signal] }
      collectSignals fuel

/-- Says how a process that was waited for was ended by a signal. -/
def sayEnding (ending : Ending) : Sh Unit := do
  match ending with
  | .signaled signal =>
    if signal != 2 && signal != 13 then
      let _ ← Sh.writeNow 2 (raw (signalDescription signal) ++ ['\n'])
  | .exited _ => return

/-- Waits until all the given processes have ended, and gives the ending of the last of them. -/
def waitForProcesses : Nat → List Nat → Nat → Option Ending → Sh (Option Ending)
  | 0, _, _, ending => return ending
  | fuel + 1, waiting, last, ending => do
    if waiting.isEmpty then return ending
    match ← ask (.wait none true none) with
    | .ended id found =>
      if waiting.contains id then
        sayEnding found
        waitForProcesses fuel (waiting.filter (· != id)) last (if id == last then some found else ending)
      else
        noteEnding id found
        waitForProcesses fuel waiting last ending
    | .interrupted =>
      collectSignals 100
      waitForProcesses fuel waiting last ending
    | .running | .noChild => return ending

/-- Waits for a command that was started, given its processes. -/
def waitForCommand (ids : List Nat) : Sh Nat := do
  let ending ← waitForProcesses 1000000 ids (ids.getLast?.getD 0) none
  return (ending.map Ending.status).getD 0

/-- Notes which processes have ended, without waiting. -/
def noticeEndings : Nat → Sh Unit
  | 0 => return
  | fuel + 1 => do
    match ← ask (.wait none false none) with
    | .ended id ending =>
      noteEnding id ending
      noticeEndings fuel
    | _ => return

def jobOf (text : RawText) : Sh Job := do
  let jobs := (← get).jobs
  let missing := fun (message : RawText) => (Sh.fail message : Sh Job)
  match text with
  | '%' :: rest =>
    match rest with
    | [] | ['%'] | ['+'] =>
      match jobs.getLast? with
      | some job => return job
      | none => missing (raw "No current job")
    | ['-'] =>
      match jobs.dropLast.getLast? with
      | some job => return job
      | none => missing (raw "No previous job")
    | rest =>
      match (natural? rest).bind fun n => jobs.find? fun job => job.number == n with
      | some job => return job
      | none => missing (raw "No such job: " ++ text)
  | _ => missing (raw "No such job: " ++ text)

/-- Waits until a job is done; a signal for the shell ends the waiting. -/
def waitForJob (tells : Bool) : Nat → Nat → Sh Bool
  | 0, _ => return true
  | fuel + 1, number => do
    match (← get).jobs.find? fun job => job.number == number with
    | none => return true
    | some job =>
      if jobIsDone job then return true
      match ← ask (.wait none true none) with
      | .ended id ending =>
        if tells && job.processes.any fun entry => entry.1 == id then sayEnding ending
        noteEnding id ending
        waitForJob tells fuel number
      | .interrupted =>
        collectSignals 100
        return false
      | .running | .noChild => return true

def interruptedStatus : Sh Nat := do
  return 128 + (← get).pendingSignals.headD 0

def waitForAllJobs : Nat → Sh Bool
  | 0 => return true
  | fuel + 1 => do
    match (← get).jobs.find? fun job => !jobIsDone job with
    | none => return true
    | some job => if ← waitForJob false 1000000 job.number then waitForAllJobs fuel else return false

def waitForEach : List RawText → Nat → Sh Nat
  | [], status => return status
  | name :: names, status => do
    let job? ←
      if name.head? == some '%' then some <$> jobOf name
      else do
        let id ← numberOf name
        pure ((← get).jobs.reverse.find? fun job => (job.processes.getLast?.map (·.1)) == some id)
    match job? with
    | none => waitForEach names status
    | some job =>
      if ← waitForJob true 1000000 job.number then
        let job := ((← get).jobs.find? fun other => other.number == job.number).getD job
        waitForEach names (jobStatus job)
      else interruptedStatus

def runWait (arguments : List RawText) : Sh Nat := do
  let (_, names) ← plainOptions "" arguments
  if names.isEmpty then
    if ← waitForAllJobs 100000 then return 0 else interruptedStatus
  else waitForEach names 127

def jobStateText (job : Job) : RawText :=
  if !jobIsDone job then raw "Running"
  else
    match job.processes.getLast? with
    | some (_, .done (.exited 0)) => raw "Done"
    | some (_, .done (.exited n)) => raw "Done(" ++ naturalText n ++ [')']
    | some (_, .done (.signaled n)) => raw (signalDescription n)
    | _ => raw "Running"

def runJobs (arguments : List RawText) : Sh Nat := do
  let (options, names) ← plainOptions "lp" arguments
  noticeEndings 1000
  let jobs ← if names.isEmpty then pure (← get).jobs else names.mapM jobOf
  let last := ((← get).jobs.getLast?.map (·.number)).getD 0
  let previous := ((← get).jobs.dropLast.getLast?.map (·.number)).getD 0
  for job in jobs do
    let id := naturalText ((job.processes.head?.map (·.1)).getD 0)
    if options.contains 'p' then putLine id
    else
      let mark := if job.number == last then '+' else if job.number == previous then '-' else ' '
      let shownId := if options.contains 'l' then id ++ [' '] else []
      putLine (padRight 33 (raw "[" ++ naturalText job.number ++ raw "] " ++ mark :: ' ' :: shownId ++
        jobStateText job))
  modify fun state =>
    { state with jobs := state.jobs.filter fun job => !jobIsDone job || !(jobs.any fun other =>
        other.number == job.number) }
  return 0

def killUsage : RawText :=
  raw ("Usage: kill [-s sigspec | -signum | -sigspec] [pid | job]... or\n" ++
    "kill -l [exitstatus]")

def listSignals (arguments : List RawText) : Sh Nat := do
  match arguments with
  | [] =>
    putLine ['0']
    for signal in List.range' 1 (signalCount - 1) do
      putLine (raw (signalName signal))
    return 0
  | text :: _ =>
    let number ← numberOf text
    let signal := if 128 < number then number - 128 else number
    if 0 < signal && signal < signalCount then
      putLine (raw (signalName signal))
      return 0
    Sh.fail (raw "invalid signal number or exit status: " ++ text)

/-- Sends a signal to a process that is given by its number or its job. -/
def sendTo (signal : Nat) (name : RawText) : Sh Nat := do
  let target : Int ←
    match name with
    | '%' :: _ => do
      let job ← jobOf name
      pure (((job.processes.head?.map (·.1)).getD 0 : Nat) + 1000000000 : Int)
    | '-' :: rest => do pure (-((← numberOf rest : Nat) : Int))
    | name => do pure ((← numberOf name : Nat) : Int)
  match ← ask (.signal target signal) with
  | .ok () => return 0
  | .error fault =>
    Sh.warn (raw fault.description ++ ['\n'])
    return 1

def runKill (arguments : List RawText) : Sh Nat := do
  let (signal?, lists, rest) ←
    match arguments with
    | [] => Sh.fail killUsage
    | ('-' :: name) :: rest =>
      match signalOf? 1 name with
      | some signal => pure (some signal, false, rest)
      | none => do
        let (options, values, rest) ← optionsOf "l" "s" arguments
        match values.lookup 's' with
        | none => pure (none, options.contains 'l', rest)
        | some name =>
          match signalOf? 1 name with
          | some signal => pure (some signal, options.contains 'l', rest)
          | none => Sh.fail (raw "invalid signal number or name: " ++ name)
    | arguments => pure (none, false, arguments)
  if lists then
    if signal?.isSome then Sh.fail killUsage
    listSignals rest
  else
    if rest.isEmpty then Sh.fail killUsage
    let mut status := 0
    for name in rest do
      if (← sendTo (signal?.getD 15) name) != 0 then status := 1
    return status

/-! ## Leaving -/

def statusArgument (arguments : List RawText) : Sh (Option Nat) :=
  match arguments with
  | [] => return none
  | text :: _ => some <$> numberOf text

def runExit (arguments : List RawText) : Sh Nat := do
  match ← statusArgument arguments with
  | some status => Sh.setStatus status
  | none =>
    match (← get).trapStatus with
    | some status => Sh.setStatus status
    | none => pure ()
  throw .exit

def runReturn (arguments : List RawText) : Sh Nat := do
  let status? ← statusArgument arguments
  modify fun state => { state with skip := some (.function status?.isSome) }
  return status?.getD (← Sh.getStatus)

def runBreak (continues : Bool) (arguments : List RawText) : Sh Nat := do
  let levels := (← statusArgument arguments).getD 1
  if levels = 0 then Sh.fail (raw "Illegal number: " ++ arguments.headD [])
  let levels := min levels (← get).loopDepth
  if 0 < levels then
    let skip := if continues then Skip.continueLoop levels else .breakLoop levels
    modify fun state => { state with skip := some skip }
  return 0

def noCurrentJob : Sh Nat :=
  Sh.fail (raw "No current job")

/-- Runs a command of the shell that does not itself run commands. -/
def runPlainBuiltin (name : RawText) (arguments : List RawText) : Sh Nat :=
  match String.ofList name with
  | ":" | "true" => return 0
  | "false" => return 1
  | "[" => runBracket arguments
  | "alias" => runAlias arguments
  | "bg" | "fg" => noCurrentJob
  | "break" => runBreak false arguments
  | "cd" | "chdir" => runChangeDirectory arguments
  | "command" => runCommandQuery arguments
  | "continue" => runBreak true arguments
  | "echo" => runEcho arguments
  | "exit" => runExit arguments
  | "export" => runDeclare name false arguments
  | "getopts" => runReadOption arguments
  | "hash" => runHash arguments
  | "jobs" => runJobs arguments
  | "kill" => runKill arguments
  | "local" => runLocal arguments
  | "printf" => runFormat arguments
  | "pwd" => runPrintDirectory arguments
  | "read" => runRead arguments
  | "readonly" => runDeclare name true arguments
  | "return" => runReturn arguments
  | "set" => runSet arguments
  | "shift" => runShift arguments
  | "test" => runTest arguments
  | "times" => runTimes
  | "trap" => runTrap arguments
  | "type" => runType arguments
  | "ulimit" => runLimit arguments
  | "umask" => runMask arguments
  | "unalias" => runUnalias arguments
  | "unset" => runUnset arguments
  | "wait" => runWait arguments
  | _ => return 0

end KeyJoin.Shell
