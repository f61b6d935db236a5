import KeyJoin.Host.Conversion
import KeyJoin.Host.Signal
import KeyJoin.Tools.Options
import KeyJoin.Tools.Stream

/-!
# Tools that start and time programs

Tools that become another program in a changed environment, start programs with
arguments they read, end a program after a time, or wait; and tools that tell
who and where they are.
-/

namespace KeyJoin.Tools

open Tool

/-! ## Starting programs -/

/-- Becomes the first program of a name in some folders; gives why that was refused. -/
def becomeIn (call : Invocation) : SystemFault → List RawText → Tool SystemFault
  | fault, [] => return fault
  | fault, folder :: folders => do
    match ← become (if folder.isEmpty then call.name else folder ++ '/' :: call.name) call with
    | .notFound | .notADirectory => becomeIn call fault folders
    | .permissionDenied => becomeIn call .permissionDenied folders
    | .notExecutable =>
      let path := if folder.isEmpty then call.name else folder ++ '/' :: call.name
      become (raw "/bin/sh") ⟨raw "/bin/sh", path :: call.arguments, call.environment⟩
    | fault => return fault

/-- Becomes the program that a path or a name without a slash means. -/
def becomeNamed (call : Invocation) : Tool SystemFault := do
  flush
  if call.name.isEmpty then return .notFound
  else if call.name.contains '/' then
    match ← become call.name call with
    | .notExecutable =>
      become (raw "/bin/sh") ⟨raw "/bin/sh", call.name :: call.arguments, call.environment⟩
    | fault => return fault
  else
    let path := (call.environment.lookup (raw "PATH")).getD (raw "/bin:/usr/bin")
    becomeIn call .notFound (splitAtAll ':' path)

/-- Becomes a program, and ends with a message about its shown name if that is refused. -/
def becomeOrFail {α : Type} (shown : RawText) (call : Invocation) : Tool α := do
  let fault ← becomeNamed call
  say (shown ++ raw ": " ++ raw fault.description)
  exit (if fault == .notFound then 127 else 126)

/-- Waits for a child to end. -/
def waitFor (child : Nat) : Nat → Tool Ending
  | 0 => return .exited 127
  | fuel + 1 => do
    match ← ask (.wait (some child) true none) with
    | .ended _ ending => return ending
    | .noChild => return .exited 127
    | _ => waitFor child fuel

/-! ## Environments -/

def environmentRules : List OptionRule :=
  [{ key := "i", letters := "i", name := "ignore-environment" },
    { key := "0", letters := "0", name := "null" }, { key := "v", letters := "v", name := "debug" },
    { key := "u", letters := "u", name := "unset", argument := .required },
    { key := "C", letters := "C", name := "chdir", argument := .required },
    { key := "S", letters := "S", name := "split-string", argument := .required }]

/-- An environment in which a name has a value; a new name comes last. -/
def withValue (environment : List (RawText × RawText)) (name value : RawText) :
    List (RawText × RawText) :=
  if environment.any fun entry => entry.1 == name then
    environment.map fun entry => if entry.1 == name then (name, value) else entry
  else environment ++ [(name, value)]

/-- The values set by the words in front, and the words after them. -/
def assignments : List RawText → List (RawText × RawText) → List (RawText × RawText) × List RawText
  | [], environment => (environment, [])
  | word :: rest, environment =>
    match splitAtFirst? (· == '=') word with
    | some (name, value) => assignments rest (withValue environment name value)
    | none => (environment, word :: rest)

def runEnvironment (arguments : List RawText) : Tool Unit := do
  let arguments := match arguments with
    | ['-'] :: rest => raw "-i" :: rest
    | arguments => arguments
  let options ← readFirstOptions 125 environmentRules arguments
  let operands :=
    ((options.values "S").flatMap fun text =>
      (text.splitOnP isSpaceByte).filter (!·.isEmpty)) ++ options.operands
  let operands := if operands.head? == some ['-'] then operands.drop 1 else operands
  let inherited := (← get).environment
  let environment := if options.has "i" then [] else inherited
  let unset := options.values "u"
  match unset.find? fun name => name.isEmpty || name.contains '=' with
  | some name => fail 125 (raw "cannot unset " ++ quoted name ++ raw ": Invalid argument")
  | none => pure ()
  let environment := environment.filter fun entry => !unset.contains entry.1
  let (environment, words) := assignments operands environment
  match options.value? "C" with
  | some path =>
    match ← ask (.changeDirectory path) with
    | .ok () => pure ()
    | .error fault =>
      fail 125 (raw "cannot change directory to " ++ quoted path ++ raw ": " ++ raw fault.description)
  | none => pure ()
  match words with
  | [] =>
    let ending := if options.has "0" then '\x00' else '\n'
    for (name, value) in environment do
      put (name ++ '=' :: value ++ [ending])
  | name :: arguments => becomeOrFail (quoted name) ⟨name, arguments, environment⟩

def runPrintEnvironment (arguments : List RawText) : Tool Unit := do
  let options ← readFirstOptions 2 [{ key := "0", letters := "0", name := "null" }] arguments
  let ending := if options.has "0" then '\x00' else '\n'
  if options.operands.isEmpty then
    for (name, value) in (← get).environment do
      put (name ++ '=' :: value ++ [ending])
  else
    for name in options.operands do
      match (← get).environment.lookup name with
      | some value => put (value ++ [ending])
      | none => setStatus 1

def runNice (arguments : List RawText) : Tool Unit := do
  let options ← readFirstOptions 125
    [{ key := "n", letters := "n", name := "adjustment", argument := .required }] arguments
  match options.operands with
  | [] => putLine ['0']
  | name :: arguments => becomeOrFail (quoted name) ⟨name, arguments, (← get).environment⟩

def failedRun (name : RawText) : RawText :=
  raw "failed to run command " ++ quoted name

def runDetached (arguments : List RawText) : Tool Unit := do
  let options ← readFirstOptions 125 [] arguments
  match options.operands with
  | [] => missingOperand 125
  | name :: arguments => becomeOrFail (failedRun name) ⟨name, arguments, (← get).environment⟩

def runInSession (arguments : List RawText) : Tool Unit := do
  let options ← readFirstOptions 1 (letterRules "cfw") arguments
  match options.operands with
  | [] => misuse 1 (raw "no command specified")
  | name :: arguments =>
    becomeOrFail (raw "failed to execute " ++ name) ⟨name, arguments, (← get).environment⟩

/-! ## Waiting -/

/-- The ticks of a time span with an optional unit; a span without end has none. -/
def ticksOf? (text : RawText) : Option (Option Nat) :=
  match readFloat? text with
  | none => none
  | some (x, rest) =>
    let unit : Option Float :=
      match rest with
      | [] | ['s'] => some 1
      | ['m'] => some 60
      | ['h'] => some 3600
      | ['d'] => some 86400
      | _ => none
    match unit with
    | none => none
    | some unit =>
      if x.isNaN || x < 0 then none
      else if x.isInf then some none
      else some (some (x * unit * Float.ofNat secondTicks).toUInt64.toNat)

/-- A time later than all that matter. -/
def endOfTime : Nat := 1000000000000000

def runSleep (arguments : List RawText) : Tool Unit := do
  let options ← readOptions 1 [] arguments
  if options.operands.isEmpty then missingOperand 1
  let mut total := 0
  let mut isWrong := false
  for text in options.operands do
    match ticksOf? text with
    | some ticks => total := total + ticks.getD endOfTime
    | none =>
      say (raw "invalid time interval " ++ quoted text)
      isWrong := true
  if isWrong then misuse 1 []
  let now ← ask .clock
  ask (.sleepUntil (now + total))

def timeoutRules : List OptionRule :=
  [{ key := "s", letters := "s", name := "signal", argument := .required },
    { key := "k", letters := "k", name := "kill-after", argument := .required },
    { key := "foreground", name := "foreground" },
    { key := "preserve", name := "preserve-status" },
    { key := "v", letters := "v", name := "verbose" }]

/-- Waits for a child to end until a time. -/
def waitUntil (child : Nat) (deadline : Option Nat) : Nat → Tool (Option Ending)
  | 0 => return none
  | fuel + 1 => do
    match ← ask (.wait (some child) true deadline) with
    | .ended _ ending => return some ending
    | .noChild => return some (.exited 127)
    | .running => return none
    | .interrupted => waitUntil child deadline fuel

def killSignal : Nat := 9

def runTimeout (arguments : List RawText) : Tool Unit := do
  let options ← readFirstOptions 125 timeoutRules arguments
  let signal ←
    match options.value? "s" with
    | none => pure 15
    | some text =>
      match signalOf? 0 text with
      | some signal => pure signal
      | none => misuse 125 (quoted text ++ raw ": invalid signal")
  let span := fun (text : RawText) =>
    match ticksOf? text with
    | some ticks => pure ticks
    | none => misuse 125 (raw "invalid time interval " ++ quoted text)
  let killSpan ← (options.value? "k").mapM span
  match options.operands with
  | [] => misuse 125 []
  | [_] => misuse 125 []
  | time :: name :: arguments =>
    let ticks ← span time
    flush
    let environment := (← get).environment
    let child ← fork (becomeOrFail (failedRun name) ⟨name, arguments, environment⟩)
    let now ← ask .clock
    let deadline := match ticks with
      | some (n + 1) => some (now + n + 1)
      | _ => none
    let conclude := fun (ending : Ending) =>
      match ending with
      | .exited status => exit status
      | .signaled signal => endBySignal signal
    match ← waitUntil child deadline 1000 with
    | some ending => conclude ending
    | none =>
      let tell := fun (signal : Nat) => do
        if options.has "v" then
          say (raw "sending signal " ++ raw (signalName signal) ++ raw " to command " ++ quoted name)
        let _ ← ask (.signal child signal)
      tell signal
      let now ← ask .clock
      let killDeadline := match killSpan with
        | some (some (n + 1)) => some (now + n + 1)
        | _ => none
      let ending ←
        match ← waitUntil child killDeadline 1000 with
        | some ending => pure ending
        | none => do
          tell killSignal
          pure ((← waitUntil child none 1000).getD (.exited 0))
      if options.has "preserve" then exit ending.status
      else if ending == .signaled killSignal then
        endBySignal killSignal
      else exit 124

/-! ## Arguments from the input -/

def argumentRules : List OptionRule :=
  letterRules "0rtxpo" ++
    [{ key := "0", name := "null" }, { key := "r", name := "no-run-if-empty" },
      { key := "t", name := "verbose" }, { key := "x", name := "exit" },
      { key := "n", letters := "n", name := "max-args", argument := .required },
      { key := "L", letters := "L", name := "max-lines", argument := .required },
      { key := "l", letters := "l", argument := .possible },
      { key := "I", letters := "I", argument := .required },
      { key := "I", letters := "i", name := "replace", argument := .possible },
      { key := "d", letters := "d", name := "delimiter", argument := .required },
      { key := "E", letters := "E", argument := .required },
      { key := "e", letters := "e", name := "eof", argument := .possible },
      { key := "P", letters := "P", name := "max-procs", argument := .required },
      { key := "s", letters := "s", name := "max-chars", argument := .required },
      { key := "a", letters := "a", name := "arg-file", argument := .required }]

/-- A word of the input; `endsLine` says whether it is the last of its line. -/
structure InputWord where
  text : RawText
  endsLine : Bool

/-- How a word that is being read is quoted, if at all. -/
inductive WordQuote
  | none
  | within (mark : Char)
  | escaped

/-- Cuts a text into words; quotes and backslashes protect blanks, and with `byLine` only a line feed
ends a word.  Words and the characters of the last one stand backwards.  A quote that is not closed
ends the words. -/
def inputWords (byLine : Bool) :
    RawText → WordQuote → Option RawText → List InputWord → List InputWord × Option Char
  | [], quote, word, words =>
    match quote, word with
    | .within mark, _ => (words.reverse, some mark)
    | _, some word => ((⟨word.reverse, true⟩ :: words).reverse, none)
    | _, none => (words.reverse, none)
  | c :: rest, quote, word, words =>
    let add := fun (quote : WordQuote) => inputWords byLine rest quote (some (c :: word.getD [])) words
    match quote with
    | .escaped => add .none
    | .within mark =>
      if c == mark then inputWords byLine rest .none (some (word.getD [])) words
      else if c == '\n' then (words.reverse, some mark)
      else add quote
    | .none =>
      if c == '\'' || c == '"' then inputWords byLine rest (.within c) (some (word.getD [])) words
      else if c == '\\' then inputWords byLine rest .escaped (some (word.getD [])) words
      else if c == '\n' then
        let endLine := fun (words : List InputWord) =>
          match words with
          | last :: before => { last with endsLine := true } :: before
          | [] => []
        match word with
        | some word => inputWords byLine rest .none none (⟨word.reverse, true⟩ :: words)
        | none => inputWords byLine rest .none none (endLine words)
      else if isBlankByte c then
        if byLine then
          if word.isNone then inputWords byLine rest .none none words else add .none
        else
          match word with
          | some word => inputWords byLine rest .none none (⟨word.reverse, false⟩ :: words)
          | none => inputWords byLine rest .none none words
      else add .none

/-- The words of a text between separators. -/
def separatedWords (mark : Char) (text : RawText) : List InputWord :=
  if text.isEmpty then []
  else
    (splitAtAll mark (if text.getLast? == some mark then text.dropLast else text)).map fun word =>
      ⟨word, true⟩

/-- Groups of at most `count` words. -/
def wordGroups (count : Nat) : Nat → List RawText → List (List RawText)
  | 0, _ => []
  | _, [] => []
  | fuel + 1, words => words.take count :: wordGroups count fuel (words.drop count)

/-- The words of a number of lines together. -/
def lineGroups (count : Nat) : List InputWord → Nat → List RawText → List (List RawText)
  | [], _, group => if group.isEmpty then [] else [group.reverse]
  | word :: words, lines, group =>
    let group := word.text :: group
    if word.endsLine then
      if lines + 1 = count then group.reverse :: lineGroups count words 0 []
      else lineGroups count words (lines + 1) group
    else lineGroups count words lines group

/-- Replaces all places where a mark stands in a text. -/
def replaceMark (mark value : RawText) : Nat → RawText → RawText
  | 0, text => text
  | _, [] => []
  | fuel + 1, c :: cs =>
    if !mark.isEmpty && mark.isPrefixOf (c :: cs) then
      value ++ replaceMark mark value fuel ((c :: cs).drop mark.length)
    else c :: replaceMark mark value fuel cs

/-- Runs a command to its end; the answer tells whether to go on. -/
def runCommandLine (traces : Bool) (inputFile : RawText) (words : List RawText) : Tool Bool := do
  match words with
  | [] => return true
  | name :: arguments =>
    if traces then sayPlainly ([' '].intercalate words ++ ['\n'])
    flush
    let environment := (← get).environment
    let child ← fork (do
      match ← ask (.openFile inputFile { reads := true }) with
      | .ok number =>
        if number != 0 && !inputFile.isEmpty then
          let _ ← ask (.copyTo number 0)
          let _ ← ask (.close number)
      | .error _ => pure ()
      becomeOrFail name ⟨name, arguments, environment⟩)
    match ← waitFor child 1000000 with
    | .exited 0 => return true
    | .exited 255 =>
      say (name ++ raw ": exited with status 255; aborting")
      setStatus 124
      return false
    | .exited 127 =>
      setStatus 127
      return false
    | .exited 126 =>
      setStatus 126
      return false
    | .exited _ =>
      setStatus 123
      return true
    | .signaled signal =>
      say (name ++ raw ": terminated by signal " ++ naturalText signal)
      setStatus 125
      return false

def runCommandLines (traces : Bool) (inputFile : RawText) : List (List RawText) → Tool Unit
  | [] => return
  | words :: rest => do
    if ← runCommandLine traces inputFile words then runCommandLines traces inputFile rest

def separatorOf (text : RawText) : Tool Char := do
  match text with
  | [c] => return c
  | ['\\', c] =>
    match c with
    | 'n' => return '\n'
    | 't' => return '\t'
    | '0' => return '\x00'
    | '\\' => return '\\'
    | _ => fail 1 (raw "Invalid escape sequence " ++ text ++ raw " in input delimiter specification.")
  | _ =>
    fail 1 (raw "Invalid input delimiter specification " ++ text ++
      raw ": the delimiter must be either a single character or an escape sequence starting with \\.")

def runArguments (arguments : List RawText) : Tool Unit := do
  let options ← readFirstOptions 1 argumentRules arguments
  let command := if options.operands.isEmpty then [raw "echo"] else options.operands
  let text ←
    match options.value? "a" with
    | none => readTogether []
    | some name =>
      match ← readFile name with
      | .ok text => pure text
      | .error fault =>
        fail 1 (raw "Cannot open input file " ++ quoted name ++ raw ": " ++ raw fault.description)
  let separator ←
    match options.lastOf ["0", "d"] with
    | some "0" => pure (some '\x00')
    | some _ => do pure (some (← separatorOf ((options.value? "d").getD [])))
    | none => pure none
  let last := options.lastOf ["I", "L", "l", "n"]
  let (words, unclosed) :=
    match separator with
    | some mark => (separatedWords mark text, none)
    | none => inputWords (last == some "I") text .none none []
  let words :=
    match options.lastOf ["E", "e"] with
    | some key =>
      let mark := (options.value? key).getD []
      if mark.isEmpty then words else words.takeWhile fun word => word.text != mark
    | none => words
  let number := fun (key : String) => do
    match options.value? key with
    | none => pure 1
    | some text =>
      match natural? text with
      | some 0 =>
        misuse 1 (raw "value 0 for -" ++ raw key ++ raw " option should be >= 1")
      | some n => pure n
      | none =>
        if text.isEmpty then pure 1
        else
          misuse 1 (raw "invalid number \"" ++ text ++ raw "\" for -" ++ raw key ++ raw " option")
  let traces := options.has "t"
  let inputFile := if options.has "a" then [] else raw "/dev/null"
  let texts := words.map (·.text)
  let lines ←
    match last with
    | some "I" =>
      let mark := ((options.value? "I").filter (!·.isEmpty)).getD ['\x7b', '\x7d']
      pure (texts.map fun text => command.map fun word =>
        replaceMark mark text (word.length + 1) word)
    | some "n" => do
      let count ← number "n"
      pure ((wordGroups count (texts.length + 1) texts).map fun group => command ++ group)
    | some key => do
      let count ← number key
      pure ((lineGroups count words 0 []).map fun group => command ++ group)
    | none => pure (if texts.isEmpty then [] else [command ++ texts])
  let runsOnce := lines.isEmpty && !options.has "r" && last != some "I" && unclosed.isNone
  runCommandLines traces inputFile (if runsOnce then [command] else lines)
  match unclosed with
  | some mark =>
    fail 1 (raw "unmatched " ++ raw (if mark == '"' then "double" else "single") ++
      raw " quote; by default quotes are special to xargs unless you use the -0 option")
  | none => return

/-! ## Who and where -/

def runDirectory (arguments : List RawText) : Tool Unit := do
  let options ← readOptions 1 (letterRules "LP") arguments
  match ← ask (.realPath ['.']) with
  | .ok path =>
    let named := (← lookupEnvironment "PWD").getD []
    let isNamed :=
      match ← ask (.realPath named) with
      | .ok other => other == path
      | .error _ => false
    putLine (if options.has "L" && isNamed then named else path)
  | .error fault => fail 1 (raw "couldn't find directory entry: " ++ raw fault.description)

def runUser (_ : List RawText) : Tool Unit :=
  putLine (raw "root")

def runIdentity (arguments : List RawText) : Tool Unit := do
  let options ← readOptions 1
    (letterRules "ugGnrz" ++
      [{ key := "u", name := "user" }, { key := "g", name := "group" },
        { key := "G", name := "groups" }, { key := "n", name := "name" }])
    arguments
  if options.has "u" || options.has "g" || options.has "G" then
    putLine (if options.has "n" then raw "root" else ['0'])
  else if options.has "n" then
    fail 1 (raw "cannot print only names or real IDs in default format")
  else putLine (raw "uid=0(root) gid=0(root) groups=0(root)")

def runSystem (arguments : List RawText) : Tool Unit := do
  let options ← readOptions 1
    (letterRules "asnrvmpio" ++
      [{ key := "s", name := "kernel-name" }, { key := "m", name := "machine" },
        { key := "o", name := "operating-system" }])
    arguments
  match options.operands with
  | operand :: _ => extraOperand 1 operand
  | [] =>
    let parts : List (String × String) :=
      [("s", "Linux"), ("n", "localhost"), ("m", "x86_64"), ("o", "GNU/Linux")]
    let shown := parts.filter fun (key, _) => options.has key || options.has "a"
    let shown := if shown.isEmpty then ["Linux"] else shown.map (·.2)
    putLine ([' '].intercalate (shown.map raw))

/-- The first program of a name in some folders, or all of them. -/
def programsIn (name : RawText) : List RawText → Tool (List RawText)
  | [] => return []
  | folder :: folders => do
    let path := if folder.isEmpty then raw "./" ++ name else folder ++ '/' :: name
    let rest ← programsIn name folders
    match ← ask (.statusOf path true) with
    | .ok status =>
      if status.kind == .regular && status.permissions &&& 0o111 != 0 then return path :: rest
      else return rest
    | .error _ => return rest

def runWhich (arguments : List RawText) : Tool Unit := do
  let options ← readOptions 2 (letterRules "as") arguments
  for name in options.operands do
    let folders := splitAtAll ':' ((← lookupEnvironment "PATH").getD [])
    let found ←
      if name.contains '/' then do
        match ← ask (.statusOf name true) with
        | .ok status =>
          pure (if status.kind == .regular && status.permissions &&& 0o111 != 0 then [name] else [])
        | .error _ => pure []
      else programsIn name folders
    if found.isEmpty then setStatus 1
    for path in (if options.has "a" then found else found.take 1) do
      putLine path
  if options.operands.isEmpty then setStatus 1

def runTerminalName (arguments : List RawText) : Tool Unit := do
  let options ← readOptions 2 [{ key := "s", letters := "s", name := "silent" }] arguments
  if !options.has "s" then putLine (raw "not a tty")
  setStatus 1

end KeyJoin.Tools
