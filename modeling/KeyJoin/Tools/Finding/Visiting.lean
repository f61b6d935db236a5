import KeyJoin.Tools.Finding.Expression
import KeyJoin.Tools.Processes

/-!
# Visiting files

The files below a path are visited one after the other, a directory before what
is in it or behind it.  For each file the expression is evaluated from left to
right, as far as its value is not known, and the actions in it are done.
-/

namespace KeyJoin.Tools.Finding

open Tool

/-- A file that is visited: its path, where the search for it started, and how far below. -/
structure FoundFile where
  path : RawText
  start : RawText
  depth : Nat
  status : FileStatus

def withoutEndSlashes (path : RawText) : RawText :=
  let kept := trimEndOf (· == '/') path
  if kept.isEmpty && !path.isEmpty then ['/'] else kept

def FoundFile.name (file : FoundFile) : RawText :=
  let path := withoutEndSlashes file.path
  if path == ['/'] then path else lastPart path

/-- What a search has gathered and decided so far. -/
structure FindState where
  batches : List (Nat × List (RawText × RawText)) := []
  skipsFolder : Bool := false
  hasQuit : Bool := false

abbrev Find := StateT FindState Tool

/-! ## Formats -/

/-- The text of a time in the format that a letter asks for. -/
def timeByLetter (zone : TimeZone) (instant : Int × Nat) (letter : Char) : RawText :=
  let moment := Dates.momentOf zone instant
  let fraction := raw "%N0"
  match letter with
  | '@' => moment.format (raw "%s." ++ fraction)
  | '+' => moment.format (raw "%Y-%m-%d+%H:%M:%S." ++ fraction)
  | 'S' => moment.format (raw "%S." ++ fraction)
  | 'T' | 'X' => moment.format (raw "%H:%M:%S." ++ fraction)
  | letter => moment.format ['%', letter]

def usualTime (zone : TimeZone) (instant : Int × Nat) : RawText :=
  (Dates.momentOf zone instant).format (raw "%a %b %e %H:%M:%S.%N0 %Y")

/-- The letter of a kind of files. -/
def kindSign (status : FileStatus) : Char :=
  match status.kind with
  | .regular => 'f'
  | .directory => 'd'
  | .link => 'l'
  | .device => 'c'
  | .fifo => 'p'

/-- The directory that a path stands in, as it is written. -/
def leadingPart (path : RawText) : RawText :=
  let path := withoutEndSlashes path
  if path.contains '/' then
    let before := (path.reverse.dropWhile (· != '/')).drop 1
    before.reverse
  else ['.']

def belowStart (file : FoundFile) : RawText :=
  let rest := file.path.drop file.start.length
  if rest.head? == some '/' then rest.drop 1 else rest

/-- What a letter of a format stands for. -/
def partOfFile? (zone : TimeZone) (file : FoundFile) (letter : Char) : Find (Option RawText) := do
  let status := file.status
  let blocks := (status.size + 4095) / 4096
  let instant := Dates.instantOfTicks status.modified
  match letter with
  | 'p' => return some file.path
  | 'f' => return some file.name
  | 'h' => return some (leadingPart file.path)
  | 'P' => return some (belowStart file)
  | 'H' => return some file.start
  | 'd' => return some (naturalText file.depth)
  | 's' => return some (naturalText status.size)
  | 'm' => return some (digitsInBase 8 status.permissions)
  | 'M' => return some (permissionLetters status)
  | 'y' => return some [kindSign status]
  | 'Y' =>
    match ← (ask (.statusOf file.path true) : Tool _) with
    | .ok status => return some [kindSign status]
    | .error .notFound => return some ['N']
    | .error .tooManyLinks => return some ['L']
    | .error _ => return some ['?']
  | 'l' =>
    if status.kind != .link then return some []
    match ← (ask (.linkTarget file.path) : Tool _) with
    | .ok target => return some target
    | .error _ => return some []
  | 'n' => return some (naturalText status.links)
  | 'i' => return some (naturalText (status.node + 100))
  | 'u' | 'g' => return some (raw "root")
  | 'U' | 'G' => return some ['0']
  | 'k' => return some (naturalText (4 * blocks))
  | 'b' => return some (naturalText (8 * blocks))
  | 'D' => return some (raw "64")
  | 'F' => return some (raw "overlay")
  | 'S' => return some (['1'])
  | 't' | 'a' | 'c' => return some (usualTime zone instant)
  | _ => return none

/-- The width of a field, and whether it stands on the left or is filled with zeros. -/
structure FieldWidth where
  flags : RawText := []
  width : Nat := 0
  precision : Option Nat := none

def FieldWidth.fill (field : FieldWidth) (letter : Char) (text : RawText) : RawText :=
  let text := match field.precision with
    | some n => if ['d', 'm'].contains letter then padZeros n text else text.take n
    | none => text
  let text := if field.flags.contains '#' && letter == 'm' then '0' :: text else text
  if field.flags.contains '-' then padRight field.width text
  else if field.flags.contains '0' && ['d', 'm'].contains letter then padZeros field.width text
  else padLeft field.width text

def readFieldWidth (text : RawText) : FieldWidth × RawText :=
  let flags := text.takeWhile fun c => ['-', '+', ' ', '#', '0'].contains c
  let rest := text.drop flags.length
  let width := rest.takeWhile Char.isDigit
  let rest := rest.drop width.length
  match rest with
  | '.' :: rest =>
    let digits := rest.takeWhile Char.isDigit
    (⟨flags, readInBase 10 width, some (readInBase 10 digits)⟩, rest.drop digits.length)
  | _ => (⟨flags, readInBase 10 width, none⟩, rest)

/-- Fills a format for a file; the answer also tells whether it stops all printing of it. -/
def fillFormat (zone : TimeZone) (file : FoundFile) : Nat → RawText → Find RawText
  | 0, _ => return []
  | _, [] => return []
  | fuel + 1, '\\' :: rest => do
    match rest with
    | [] => return ['\\']
    | 'c' :: _ => return []
    | c :: after =>
      if isOctalDigit c then
        let digits := rest.take 3 |>.takeWhile isOctalDigit
        return byteCharacter (readInBase 8 digits) ::
          (← fillFormat zone file fuel (rest.drop digits.length))
      else
        let shown : RawText :=
          match c with
          | 'a' => ['\x07']
          | 'b' => ['\x08']
          | 'f' => ['\x0c']
          | 'n' => ['\n']
          | 'r' => ['\x0d']
          | 't' => ['\t']
          | 'v' => ['\x0b']
          | '\\' => ['\\']
          | c => ['\\', c]
        return shown ++ (← fillFormat zone file fuel after)
  | fuel + 1, '%' :: text => do
    let (field, rest) := readFieldWidth text
    match rest with
    | [] => return '%' :: text
    | '%' :: rest => return '%' :: (← fillFormat zone file fuel rest)
    | letter :: rest =>
      let instant := Dates.instantOfTicks file.status.modified
      match letter, rest with
      | 'T', c :: rest | 'A', c :: rest | 'C', c :: rest | 'B', c :: rest =>
        return field.fill 'T' (timeByLetter zone instant c) ++ (← fillFormat zone file fuel rest)
      | letter, rest =>
        match ← partOfFile? zone file letter with
        | some shown => return field.fill letter shown ++ (← fillFormat zone file fuel rest)
        | none =>
          return '%' :: text.take (text.length - rest.length) ++ (← fillFormat zone file fuel rest)
  | fuel + 1, c :: rest => return c :: (← fillFormat zone file fuel rest)

/-- The letters that fields of formats may have. -/
def knownLetters : RawText :=
  raw "pfhPHdsmMyYlniuUgGkbDFStacTACB%"

/-- The letters in a format that stand for nothing. -/
def unknownLetters : Nat → RawText → RawText
  | 0, _ => []
  | _, [] => []
  | fuel + 1, '%' :: text =>
    match (readFieldWidth text).2 with
    | [] => []
    | letter :: rest =>
      let rest := if ['T', 'A', 'C', 'B'].contains letter then rest.drop 1 else rest
      if knownLetters.contains letter then unknownLetters fuel rest
      else letter :: unknownLetters fuel rest
  | fuel + 1, _ :: text => unknownLetters fuel text

/-- The line that tells all of a file. -/
def listLine (zone : TimeZone) (now : Int × Nat) (file : FoundFile) : Find RawText := do
  let status := file.status
  let instant := Dates.instantOfTicks status.modified
  let isRecent := decide (now.1 - 15778476 < instant.1 ∧ instant.1 ≤ now.1)
  let time := (Dates.momentOf zone instant).format
    (raw (if isRecent then "%b %e %H:%M" else "%b %e  %Y"))
  let target ← if status.kind = .link then partOfFile? zone file 'l' else pure none
  let field := fun (width : Nat) (n : Nat) => padLeft width (naturalText n) ++ [' ']
  return field 9 (status.node + 100) ++ field 6 ((status.size + 4095) / 4096 * 4) ++
    permissionLetters status ++ ' ' :: field 3 status.links ++ raw "root     root     " ++
    field 8 status.size ++ time ++ ' ' :: file.path ++
    (match target with
      | some target => raw " -> " ++ target
      | none => []) ++ ['\n']

/-! ## Tests -/

def matchesName (pattern : List Shell.PatternItem) (ignoresCase : Bool) (text : RawText) : Bool :=
  Shell.matchesPattern pattern (if ignoresCase then text.map Char.toLower else text)

/-- How long ago a file was changed, in seconds. -/
def ageOf (now : Int × Nat) (file : FoundFile) : Int :=
  now.1 - (Dates.instantOfTicks file.status.modified).1

def passes (plan : FindPlan) (file : FoundFile) : FileTest → Find Bool
  | .name pattern ignoresCase => return matchesName pattern ignoresCase file.name
  | .path pattern ignoresCase => return matchesName pattern ignoresCase file.path
  | .linkName pattern ignoresCase => do
    if file.status.kind != .link then return false
    match ← (ask (.linkTarget file.path) : Tool _) with
    | .ok target => return matchesName pattern ignoresCase target
    | .error _ => return false
  | .wholePath regex =>
    return (regex.matchesAt (Subject.ofText file.path) 0).any fun found =>
      found.last == file.path.length
  | .kind letters follows => do
    let status ←
      if follows then do
        match ← (ask (.statusOf file.path (plan.links != .always)) : Tool _) with
        | .ok status => pure status
        | .error _ => pure file.status
      else pure file.status
    return letters.contains (kindSign status)
  | .size rule unit => return rule.holds ((file.status.size + unit - 1) / unit)
  | .empty => do
    match file.status.kind with
    | .regular => return file.status.size == 0
    | .directory =>
      match ← (ask (.namesIn file.path) : Tool _) with
      | .ok names => return names.isEmpty
      | .error _ => return false
    | _ => return false
  | .newer time => return decide (time < file.status.modified)
  | .days rule => do
    let now ← (Dates.present : Tool _)
    let now := if plan.fromDayStart then (now.1 - now.1 % 86400 + 86400, now.2) else now
    return rule.holds ((ageOf now file).toNat / 86400)
  | .minutes rule => do
    let age := ageOf (← (Dates.present : Tool _)) file
    let span : Int := rule.count * 60
    match rule.order with
    | .gt => return decide (span < age)
    | .lt => return decide (age < span)
    | .eq => return decide (span - 60 ≤ age ∧ age < span)
  | .permissions rule bits =>
    let own := file.status.permissions
    match rule with
    | .exactly => return own == bits
    | .all => return own &&& bits == bits
    | .any => return bits == 0 || own &&& bits != 0
  | .links rule => return rule.holds file.status.links
  | .node rule => return rule.holds (file.status.node + 100)
  | .sameNode node => return file.status.node == node
  | .mayRun => return file.status.kind == .directory || file.status.permissions &&& 0o111 != 0
  | .constant value => return value

/-! ## Actions -/

def write (output : Option Nat) (text : RawText) : Find Unit := do
  match output with
  | none => (put text : Tool Unit)
  | some number =>
    let _ ← (ask (.write number text) : Tool _)

/-- The name of a file within its directory. -/
def localName (file : FoundFile) : RawText :=
  if file.name == ['/'] then ['/'] else raw "./" ++ file.name

/-- Runs a command, in a directory if one is given, and tells whether it ended well. -/
def runCommand (folder : Option RawText) (words : List RawText) : Tool Bool := do
  match words with
  | [] => return true
  | name :: arguments =>
    flush
    let environment := (← get).environment
    let child ← fork (do
      match folder with
      | some folder => let _ ← ask (.changeDirectory folder)
      | none => pure ()
      becomeOrFail (quoted name) ⟨name, arguments, environment⟩)
    return (← waitFor child 1000000) == .exited 0

/-- Asks whether a command is to be run. -/
def isConfirmed (name path : RawText) : Tool Bool := do
  sayPlainly (raw "< " ++ name ++ raw " ... " ++ path ++ raw " > ? ")
  match ← ask (.readLine 0) with
  | .ok (c :: _) => return c == 'y' || c == 'Y'
  | _ => return false

def deleteFile (file : FoundFile) : Tool Bool := do
  if file.path == ['.'] then return true
  let answer ←
    if file.status.kind == .directory then ask (.removeDirectory file.path)
    else ask (.removeFile file.path)
  match answer with
  | .ok () => return true
  | .error fault =>
    say (raw "cannot delete " ++ quoted file.path ++ raw ": " ++ raw fault.description)
    setStatus 1
    return false

def perform (plan : FindPlan) (file : FoundFile) : FileAction → Find Bool
  | .print ending output => do
    write output (file.path ++ [ending])
    return true
  | .format text output => do
    write output (← fillFormat plan.zone file (text.length + 1) text)
    return true
  | .list output => do
    write output (← listLine plan.zone (← (Dates.present : Tool _)) file)
    return true
  | .run words inFolder asks => do
    let path := if inFolder then localName file else file.path
    let words := words.map fun word =>
      replaceMark ['\x7b', '\x7d'] path (word.length + 1) word
    let folder := if inFolder then some (leadingPart file.path) else none
    let isWanted ← if asks then (isConfirmed (words.headD []) path : Tool _) else pure true
    if isWanted then (runCommand folder words : Tool _) else return false
  | .runTogether index _ inFolder => do
    let path := if inFolder then localName file else file.path
    let entry := (leadingPart file.path, path)
    modify fun state =>
      let old := (state.batches.lookup index).getD []
      { state with
        batches := (index, old ++ [entry]) :: state.batches.filter fun batch => batch.1 != index }
    return true
  | .delete => (deleteFile file : Tool _)
  | .prune => do
    modify fun state => { state with skipsFolder := true }
    return true
  | .quit => do
    modify fun state => { state with hasQuit := true }
    return true

def evaluate (plan : FindPlan) (file : FoundFile) : FindExpression → Find Bool
  | .test test => passes plan file test
  | .action action => do
    if (← get).hasQuit then return false
    perform plan file action
  | .negation expression => do return !(← evaluate plan file expression)
  | .both first second => do
    if ← evaluate plan file first then evaluate plan file second else return false
  | .either first second => do
    if ← evaluate plan file first then return true else evaluate plan file second
  | .sequence first second => do
    let _ ← evaluate plan file first
    evaluate plan file second

/-! ## Walking -/

def sayMissing (path : RawText) (fault : SystemFault) : Tool Unit := do
  say (quoted path ++ raw ": " ++ raw fault.description)
  setStatus 1

/-- The status of a file, by the rule for links. -/
def visitedStatus (plan : FindPlan) (path : RawText) (depth : Nat) : Tool (Fallible FileStatus) := do
  let follows := plan.links = .always || (plan.links = .atStart && depth = 0)
  match ← ask (.statusOf path follows) with
  | .error fault => if follows then ask (.statusOf path false) else return .error fault
  | answer => return answer

def visit (plan : FindPlan) (expression : FindExpression) (start : RawText) :
    Nat → Nat → RawText → Find Unit
  | 0, _, _ => return
  | fuel + 1, depth, path => do
    if (← get).hasQuit then return
    match ← (visitedStatus plan path depth : Tool _) with
    | .error fault => (sayMissing path fault : Tool Unit)
    | .ok status =>
      let file : FoundFile := ⟨path, start, depth, status⟩
      let isReached := decide (plan.leastDeep ≤ depth)
      modify fun state => { state with skipsFolder := false }
      if isReached && !plan.folderLast then let _ ← evaluate plan file expression
      let skips := (← get).skipsFolder && !plan.folderLast
      let goesDeeper := match plan.deepest with
        | some n => decide (depth < n)
        | none => true
      if status.kind == .directory && goesDeeper && !skips && !(← get).hasQuit then
        match ← (ask (.namesIn path) : Tool _) with
        | .error fault => (sayMissing path fault : Tool Unit)
        | .ok names =>
          for name in names do
            visit plan expression start fuel (depth + 1) (inFolder path name)
      if isReached && plan.folderLast && !(← get).hasQuit then
        let _ ← evaluate plan file expression

/-- The commands of an expression that files are gathered for. -/
def gatheringCommands : FindExpression → List (Nat × List RawText × Bool)
  | .action (.runTogether index words inFolder) => [(index, words, inFolder)]
  | .test _ | .action _ => []
  | .negation expression => gatheringCommands expression
  | .both first second | .either first second | .sequence first second =>
    gatheringCommands first ++ gatheringCommands second

/-- Entries in groups of one directory. -/
def groupByFolder : List (RawText × RawText) → List (RawText × List RawText)
  | [] => []
  | (folder, path) :: rest =>
    match groupByFolder rest with
    | (next, paths) :: groups =>
      if next == folder then (next, path :: paths) :: groups
      else (folder, [path]) :: (next, paths) :: groups
    | [] => [(folder, [path])]

/-- Runs the commands that files were gathered for. -/
def runGathered (expression : FindExpression) (state : FindState) : Tool Unit := do
  for (index, words, inFolder) in gatheringCommands expression do
    let entries := (state.batches.lookup index).getD []
    if !entries.isEmpty then
      let groups : List (Option RawText × List RawText) :=
        if inFolder then (groupByFolder entries).map fun (folder, paths) => (some folder, paths)
        else [(none, entries.map (·.2))]
      for (folder, paths) in groups do
        if !(← runCommand folder (words ++ paths)) then setStatus 1

/-- The formats of an expression. -/
def formatsOf : FindExpression → List RawText
  | .action (.format text _) => [text]
  | .test _ | .action _ => []
  | .negation expression => formatsOf expression
  | .both first second | .either first second | .sequence first second =>
    formatsOf first ++ formatsOf second

/-- Reads the options in front of the paths. -/
def leadingOptions : Nat → List RawText → LinkRule → Tool (LinkRule × List RawText)
  | 0, words, rule => return (rule, words)
  | _, [], rule => return (rule, [])
  | fuel + 1, word :: words, rule => do
    match String.ofList word with
    | "-H" => leadingOptions fuel words .atStart
    | "-L" => leadingOptions fuel words .always
    | "-P" => leadingOptions fuel words .never
    | "-D" => leadingOptions fuel (words.drop 1) rule
    | "--" => return (rule, words)
    | _ =>
      if (raw "-O").isPrefixOf word then leadingOptions fuel words rule
      else return (rule, word :: words)

def runFind (arguments : List RawText) : Tool Unit := do
  let (links, words) ← leadingOptions (arguments.length + 1) arguments .never
  let paths := words.takeWhile fun word => !beginsExpression word
  let zone ← Dates.environmentZone
  let (expression, plan) ← readFindExpression { links := links, zone := zone }
    (words.drop paths.length)
  for format in formatsOf expression do
    for letter in unknownLetters (format.length + 1) format do
      say (raw "warning: unrecognized format directive " ++ backQuoted ['%', letter])
  let starts := if paths.isEmpty then [['.']] else paths
  let mut state : FindState := {}
  for start in starts do
    let ((), next) ← (visit plan expression start 1000 0 start).run state
    state := next
  runGathered expression state

end KeyJoin.Tools.Finding
