import KeyJoin.Host.Permissions
import KeyJoin.Tools.Amounts
import KeyJoin.Tools.Dates.Telling
import KeyJoin.Tools.Lines
import KeyJoin.Tools.Output

/-!
# Tools for files

Tools that list, make, remove, copy, move and link files and directories, and
that tell or change what is known of them.  Each goes on after a file that it
cannot handle.
-/

namespace KeyJoin.Tools

open Tool

/-- Says that something could not be done to a file. -/
def sayFailed (action : String) (name : RawText) (fault : SystemFault) : Tool Unit := do
  say (raw action ++ ' ' :: quoted name ++ raw ": " ++ raw fault.description)
  setStatus 1

def statusOf (path : RawText) (follows : Bool) : Tool (Fallible FileStatus) :=
  ask (.statusOf path follows)

def isDirectory (path : RawText) : Tool Bool := do
  match ← statusOf path true with
  | .ok status => return status.kind == .directory
  | .error _ => return false

/-- A name within a directory. -/
def inFolder (folder name : RawText) : RawText :=
  if folder.getLast? == some '/' then folder ++ name else folder ++ '/' :: name

def requireOperand (options : GivenOptions) : Tool Unit := do
  if options.operands.isEmpty then missingOperand 1

/-! ## Listing -/

def listRules : List OptionRule :=
  letterRules "1aACdFfgGhiklLmnopqrRsStTuUxX" ++
    [{ key := "a", name := "all" }, { key := "A", name := "almost-all" },
      { key := "d", name := "directory" }, { key := "F", name := "classify" },
      { key := "r", name := "reverse" }, { key := "R", name := "recursive" },
      { key := "color", name := "color", argument := .possible }]

/-- The mark behind a name that tells of its kind. -/
def kindMark (options : GivenOptions) (status : FileStatus) : RawText :=
  let marksFolder := options.has "F" || options.has "p"
  match status.kind with
  | .directory => if marksFolder then ['/'] else []
  | .link => if options.has "F" then ['@'] else []
  | .fifo => if options.has "F" then ['|'] else []
  | .regular => if options.has "F" && status.permissions &&& 0o111 != 0 then ['*'] else []
  | .device => []

/-- The order of listed files: by name, by size or by the time of the last change. -/
def listedBefore (options : GivenOptions) (a b : RawText × FileStatus) : Bool :=
  let byName := compareRaw a.1 b.1
  let order :=
    match options.lastOf ["S", "t"] with
    | some "S" => (compare b.2.size a.2.size).then byName
    | some _ => (compare b.2.modified a.2.modified).then byName
    | none => byName
  if options.has "r" then order != .lt else order != .gt

def putNames (options : GivenOptions) (files : List (RawText × FileStatus)) : Tool Unit := do
  let files := if options.has "U" || options.has "f" then files else files.mergeSort (listedBefore options)
  let shown := files.map fun (name, status) =>
    (if options.has "i" then naturalText (status.node + 100) ++ [' '] else []) ++
      (if options.has "s" then naturalText ((status.size + 4095) / 4096 * 4) ++ [' '] else []) ++
      name ++ kindMark options status
  if options.has "m" then
    if !shown.isEmpty then putLine ((raw ", ").intercalate shown)
  else
    for name in shown do
      putLine name

/-- Lists a directory, and with `isDeep` those in it. -/
def listFolder (options : GivenOptions) (hasHeading : Bool) :
    Nat → Bool → RawText → Tool Unit
  | 0, _, _ => return
  | fuel + 1, isFirst, folder => do
    match ← ask (.namesIn folder) with
    | .error fault =>
      say (raw "cannot open directory " ++ quoted folder ++ raw ": " ++ raw fault.description)
      setStatus 2
    | .ok names =>
      if hasHeading then
        if !isFirst then putLine []
        putLine (folder ++ [':'])
      let shown := names.filter fun name => name.head? != some '.' || options.has "a" || options.has "A"
      let shown := if options.has "a" then [['.'], ['.', '.']] ++ shown else shown
      let mut files := []
      for name in shown do
        match ← statusOf (inFolder folder name) false with
        | .ok status => files := files ++ [(name, status)]
        | .error _ => pure ()
      putNames options files
      if options.has "R" then
        let inner := files.filter fun (name, status) =>
          status.kind == .directory && name != ['.'] && name != ['.', '.']
        for (name, _) in inner.mergeSort (listedBefore options) do
          listFolder options hasHeading fuel false (inFolder folder name)

def runList (arguments : List RawText) : Tool Unit := do
  let options ← readOptions 2 listRules arguments
  let names := if options.operands.isEmpty then [['.']] else options.operands
  let mut files := []
  let mut folders := []
  for name in names do
    let follows := !options.has "d"
    let status ← do
      match ← statusOf name follows with
      | .error .notFound => statusOf name false
      | answer => pure answer
    match status with
    | .error fault =>
      say (raw "cannot access " ++ quoted name ++ raw ": " ++ raw fault.description)
      setStatus 2
    | .ok status =>
      if status.kind == .directory && !options.has "d" then folders := folders ++ [(name, status)]
      else files := files ++ [(name, status)]
  putNames options files
  let hasHeading := 1 < names.length || options.has "R"
  let mut isFirst := files.isEmpty
  for (name, _) in folders.mergeSort (listedBefore options) do
    listFolder options hasHeading 100 isFirst name
    isFirst := false

/-! ## Directories -/

/-- The directories on the way to a path, the outermost first, and the path itself. -/
def pathAndParents (path : RawText) : List RawText :=
  let parts := splitAtAll '/' path
  (List.range parts.length).filterMap fun n =>
    let part := ['/'].intercalate (parts.take (n + 1))
    if part.isEmpty || (parts.getD n []).isEmpty then none else some part

def permissionsOption (options : GivenOptions) (first : Nat) : Tool (Option Nat) := do
  match options.value? "m" with
  | none => return none
  | some text =>
    match changedPermissions? 0 true first text with
    | some permissions => return some permissions
    | none => fail 1 (raw "invalid mode " ++ quoted text)

def runMakeDirectory (arguments : List RawText) : Tool Unit := do
  let options ← readOptions 1
    [{ key := "p", letters := "p", name := "parents" },
      { key := "v", letters := "v", name := "verbose" },
      { key := "m", letters := "m", name := "mode", argument := .required }]
    arguments
  requireOperand options
  let permissions ← permissionsOption options 0o777
  let make := fun (path : RawText) (mayExist : Bool) => do
    match ← ask (.makeDirectory path 0o777) with
    | .ok () =>
      if options.has "v" then
        putLine ((← get).name ++ raw ": created directory " ++ quoted path)
      return true
    | .error fault =>
      if mayExist && fault == .alreadyExists && (← isDirectory path) then return true
      sayFailed "cannot create directory" path fault
      return false
  let rec makeAll : List RawText → Tool Bool
    | [] => return true
    | path :: paths => do if ← make path true then makeAll paths else return false
  for path in options.operands do
    let isMade ← if options.has "p" then makeAll (pathAndParents path) else make path false
    if isMade then
      match permissions with
      | some permissions => let _ ← ask (.setPermissions path permissions)
      | none => pure ()

def runRemoveDirectory (arguments : List RawText) : Tool Unit := do
  let options ← readOptions 1
    [{ key := "p", letters := "p", name := "parents" },
      { key := "v", letters := "v", name := "verbose" },
      { key := "ignore", name := "ignore-fail-on-non-empty" }]
    arguments
  requireOperand options
  let rec removeAll : List RawText → Tool Unit
    | [] => return
    | path :: paths => do
      if options.has "v" then putLine ((← get).name ++ raw ": removing directory, " ++ quoted path)
      match ← ask (.removeDirectory path) with
      | .ok () => removeAll paths
      | .error fault =>
        if !(options.has "ignore" && fault == .notEmpty) then sayFailed "failed to remove" path fault
  for path in options.operands do
    removeAll (if options.has "p" then (pathAndParents path).reverse else [path])

/-! ## Removing -/

def removeRules : List OptionRule :=
  letterRules "fidrRvI" ++
    [{ key := "f", name := "force" }, { key := "r", name := "recursive" },
      { key := "d", name := "dir" }, { key := "v", name := "verbose" }]

/-- Removes a directory with all that is in it. -/
def removeTree (options : GivenOptions) : Nat → RawText → Tool Unit
  | 0, _ => return
  | fuel + 1, path => do
    match ← statusOf path false with
    | .error fault =>
      if !(options.has "f" && (fault == .notFound || fault == .notADirectory)) then
        sayFailed "cannot remove" path fault
    | .ok status =>
      if status.kind == .directory then
        let isDeep := options.has "r" || options.has "R"
        if !isDeep && !options.has "d" then sayFailed "cannot remove" path .isADirectory
        else
          if isDeep then
            match ← ask (.namesIn path) with
            | .ok names =>
              for name in names do
                removeTree options fuel (inFolder path name)
            | .error _ => pure ()
          match ← ask (.removeDirectory path) with
          | .ok () => if options.has "v" then putLine (raw "removed directory " ++ quoted path)
          | .error fault => sayFailed "cannot remove" path fault
      else
        match ← ask (.removeFile path) with
        | .ok () => if options.has "v" then putLine (raw "removed " ++ quoted path)
        | .error fault => sayFailed "cannot remove" path fault

def runRemove (arguments : List RawText) : Tool Unit := do
  let options ← readOptions 1 removeRules arguments
  if !options.has "f" then requireOperand options
  for path in options.operands do
    let last := lastPart path
    if (options.has "r" || options.has "R") && (last == ['.'] || last == ['.', '.']) then
      say (raw "refusing to remove '.' or '..' directory: skipping " ++ quoted path)
      setStatus 1
    else removeTree options 100 path

def runUnlink (arguments : List RawText) : Tool Unit := do
  match (← readOptions 1 [] arguments).operands with
  | [] => missingOperand 1
  | [path] =>
    match ← ask (.removeFile path) with
    | .ok () => return
    | .error fault => sayFailed "cannot unlink" path fault
  | _ :: operand :: _ => extraOperand 1 operand

/-! ## Copying, moving and linking -/

/-- The sources and the target that operands name, with the target that each source goes to. -/
def sourcesAndTargets (options : GivenOptions) : Tool (List (RawText × RawText)) := do
  match options.value? "t" with
  | some folder =>
    if options.operands.isEmpty then misuse 1 (raw "missing file operand")
    if !(← isDirectory folder) then
      fail 1 (raw "target directory " ++ quoted folder ++ raw ": No such file or directory")
    return options.operands.map fun path => (path, inFolder folder (lastPart path))
  | none =>
    match options.operands with
    | [] => misuse 1 (raw "missing file operand")
    | [path] => misuse 1 (raw "missing destination file operand after " ++ quoted path)
    | operands =>
      let target := operands.getLastD []
      let sources := operands.dropLast
      let isFolder ← if options.has "T" then pure false else isDirectory target
      if isFolder then return sources.map fun path => (path, inFolder target (lastPart path))
      else if 1 < sources.length then
        match ← statusOf target true with
        | .ok _ => fail 1 (raw "target " ++ quoted target ++ raw ": Not a directory")
        | .error fault => fail 1 (raw "target " ++ quoted target ++ raw ": " ++ raw fault.description)
      else return sources.map fun path => (path, target)

def copyRules : List OptionRule :=
  letterRules "abdfHilLnpPrRsTuvx" ++
    [{ key := "a", name := "archive" }, { key := "f", name := "force" },
      { key := "n", name := "no-clobber" }, { key := "r", name := "recursive" },
      { key := "v", name := "verbose" }, { key := "p", name := "preserve", argument := .possible },
      { key := "T", name := "no-target-directory" },
      { key := "t", letters := "t", name := "target-directory", argument := .required }]

def isDeepCopy (options : GivenOptions) : Bool :=
  options.has "r" || options.has "R" || options.has "a"

/-- Copies a file or, if that is asked for, a directory with all that is in it. -/
def copyTree (options : GivenOptions) : Nat → RawText → RawText → Tool Unit
  | 0, _, _ => return
  | fuel + 1, source, target => do
    let keepsLinks := (isDeepCopy options && !options.has "L") || options.has "P" || options.has "d"
    match ← statusOf source (!keepsLinks) with
    | .error fault => sayFailed "cannot stat" source fault
    | .ok status =>
      let existing ← statusOf target true
      let isSame := match existing with
        | .ok other => other.node == status.node
        | .error _ => false
      let sayCopied := do
        if options.has "v" then putLine (quoted source ++ raw " -> " ++ quoted target)
      match status.kind with
      | .directory =>
        if !isDeepCopy options then
          say (raw "-r not specified; omitting directory " ++ quoted source)
          setStatus 1
        else
          let made ← ask (.makeDirectory target 0o777)
          match made, existing with
          | .error fault, .error _ => sayFailed "cannot create directory" target fault
          | _, _ =>
            sayCopied
            match ← ask (.namesIn source) with
            | .ok names =>
              for name in names do
                copyTree options fuel (inFolder source name) (inFolder target name)
            | .error fault => sayFailed "cannot access" source fault
      | .link =>
        match ← ask (.linkTarget source) with
        | .ok path =>
          match ← ask (.makeLink path target) with
          | .ok () => sayCopied
          | .error fault => sayFailed "cannot create symbolic link" target fault
        | .error fault => sayFailed "cannot read symbolic link" source fault
      | _ =>
        if isSame then
          say (quoted source ++ raw " and " ++ quoted target ++ raw " are the same file")
          setStatus 1
        else if options.has "n" && existing.toOption.isSome then return
        else
          match ← readFile source with
          | .error fault => sayFailed "cannot open" source fault
          | .ok text =>
            match ← writeFile target text false with
            | .error fault =>
              say (raw "cannot create regular file " ++ quoted target ++ raw ": " ++
                raw fault.description)
              setStatus 1
            | .ok () =>
              sayCopied
              let mask ← ask (.setMask 0o022)
              let _ ← ask (.setMask mask)
              let keepsAll := options.has "p" || options.has "a"
              if keepsAll then
                let _ ← ask (.setPermissions target status.permissions)
                let _ ← ask (.setModified target status.modified)
              else if existing.toOption.isNone then
                let _ ← ask (.setPermissions target (status.permissions &&& (0o777 ^^^ mask)))

def runCopy (arguments : List RawText) : Tool Unit := do
  let options ← readOptions 1 copyRules arguments
  for (source, target) in ← sourcesAndTargets options do
    copyTree options 100 source target

def moveRules : List OptionRule :=
  letterRules "bfinTuv" ++
    [{ key := "f", name := "force" }, { key := "n", name := "no-clobber" },
      { key := "v", name := "verbose" }, { key := "T", name := "no-target-directory" },
      { key := "t", letters := "t", name := "target-directory", argument := .required }]

def runMove (arguments : List RawText) : Tool Unit := do
  let options ← readOptions 1 moveRules arguments
  for (source, target) in ← sourcesAndTargets options do
    match ← statusOf source false with
    | .error fault => sayFailed "cannot stat" source fault
    | .ok status =>
      let existing ← statusOf target false
      match existing with
      | .ok other =>
        if other.node == status.node then
          say (quoted source ++ raw " and " ++ quoted target ++ raw " are the same file")
          setStatus 1
          continue
        if options.has "n" then continue
        if other.kind == .directory && status.kind != .directory then
          say (raw "cannot overwrite directory " ++ quoted target ++ raw " with non-directory")
          setStatus 1
          continue
        if other.kind != .directory && status.kind == .directory then
          say (raw "cannot overwrite non-directory " ++ quoted target ++ raw " with directory " ++
            quoted source)
          setStatus 1
          continue
      | .error _ => pure ()
      match ← ask (.rename source target) with
      | .ok () => if options.has "v" then
          putLine (raw "renamed " ++ quoted source ++ raw " -> " ++ quoted target)
      | .error .invalidArgument =>
        say (raw "cannot move " ++ quoted source ++ raw " to a subdirectory of itself, " ++
          quoted target)
        setStatus 1
      | .error fault =>
        say (raw "cannot move " ++ quoted source ++ raw " to " ++ quoted target ++ raw ": " ++
          raw fault.description)
        setStatus 1

def linkRules : List OptionRule :=
  letterRules "bfinsTvrLP" ++
    [{ key := "f", name := "force" }, { key := "s", name := "symbolic" },
      { key := "n", name := "no-dereference" }, { key := "v", name := "verbose" },
      { key := "T", name := "no-target-directory" },
      { key := "t", letters := "t", name := "target-directory", argument := .required }]

def runLink (arguments : List RawText) : Tool Unit := do
  let options ← readOptions 1 linkRules arguments
  let pairs ←
    match options.operands with
    | [path] => pure [(path, lastPart path)]
    | _ => sourcesAndTargets options
  let isSymbolic := options.has "s"
  for (source, target) in pairs do
    let isMissing ← do
      if isSymbolic then pure none
      else
        match ← statusOf source false with
        | .error fault => pure (some fault)
        | .ok _ => pure none
    match isMissing with
    | some fault => sayFailed "failed to access" source fault
    | none =>
      if options.has "f" then let _ ← ask (.removeFile target)
      let answer ←
        if isSymbolic then ask (.makeLink source target) else ask (.makeHardLink source target)
      match answer with
      | .ok () => if options.has "v" then
          putLine (quoted target ++ raw (if isSymbolic then " -> " else " => ") ++ quoted source)
      | .error fault =>
        sayFailed (if isSymbolic then "failed to create symbolic link" else "failed to create hard link")
          target fault

/-! ## Times, permissions and sizes -/

/-- The time that digits for month, day, hour and minute say, with a year in front or not and with
seconds behind a point or not. -/
def touchTime? (zone : TimeZone) (now : Int) (text : RawText) : Option Int :=
  let digits := text.takeWhile Char.isDigit
  let two := fun (place : Nat) => (readInBase 10 ((digits.drop place).take 2) : Int)
  let seconds? : Option Int :=
    match text.drop digits.length with
    | [] => some 0
    | ['.', a, b] => if a.isDigit && b.isDigit then some (readInBase 10 [a, b]) else none
    | _ => none
  let present := (CivilTime.ofSeconds (now + zone.ahead)).year
  let start? : Option (Int × Nat) :=
    match digits.length with
    | 8 => some (present, 0)
    | 10 => some (if two 0 < 69 then two 0 + 2000 else two 0 + 1900, 2)
    | 12 => some (two 0 * 100 + two 2, 4)
    | _ => none
  match start?, seconds? with
  | some (year, place), some seconds =>
    let month := two place
    let day := two (place + 2)
    let hour := two (place + 4)
    let minute := two (place + 6)
    let isValid := decide (1 ≤ month ∧ month ≤ 12 ∧ 1 ≤ day ∧ hour ≤ 23 ∧ minute ≤ 59 ∧ seconds ≤ 60) &&
      decide (day ≤ CivilTime.daysInMonth year month.toNat)
    if isValid then some (CivilTime.secondsTo year month day hour minute seconds - zone.ahead)
    else none
  | _, _ => none

def touchRules : List OptionRule :=
  letterRules "acfhm" ++
    [{ key := "c", name := "no-create" }, { key := "h", name := "no-dereference" },
      { key := "d", letters := "d", name := "date", argument := .required },
      { key := "r", letters := "r", name := "reference", argument := .required },
      { key := "t", letters := "t", argument := .required },
      { key := "time", name := "time", argument := .required }]

/-- The time that options ask for. -/
def askedTime (options : GivenOptions) : Tool Nat := do
  let now ← ask .clock
  let zone ← Dates.environmentZone
  let reference ←
    match options.value? "r" with
    | none => pure now
    | some name =>
      match ← statusOf name true with
      | .ok status => pure status.modified
      | .error fault =>
        fail 1 (raw "failed to get attributes of " ++ quoted name ++ raw ": " ++
          raw fault.description)
  match options.value? "t", options.value? "d" with
  | some _, some _ => misuse 1 (raw "cannot specify times from more than one source")
  | some text, none =>
    if options.has "r" then misuse 1 (raw "cannot specify times from more than one source")
    match touchTime? zone (Dates.instantOfTicks now).1 text with
    | some seconds => return Dates.ticksOfInstant (seconds, 0)
    | none => fail 1 (raw "invalid date format " ++ quoted text)
  | none, some text =>
    match Dates.readDate? zone (Dates.instantOfTicks reference) text with
    | some instant => return Dates.ticksOfInstant instant
    | none => fail 1 (raw "invalid date format " ++ quoted text)
  | none, none => return reference

def runTouch (arguments : List RawText) : Tool Unit := do
  let options ← readOptions 1 touchRules arguments
  let mut changesAccess := options.has "a"
  let mut changesText := options.has "m"
  for word in options.values "time" do
    let name ← readWord 1 "--time" [["atime", "access", "use"], ["mtime", "modify"]] word
    if ["mtime", "modify"].contains name then changesText := true else changesAccess := true
  let time ← askedTime options
  if options.operands.isEmpty then misuse 1 (raw "missing file operand")
  let setTime := fun (path : RawText) => do
    if changesText || !changesAccess then
      let _ ← ask (.setModified path time)
  for path in options.operands do
    match ← statusOf path true with
    | .ok _ => setTime path
    | .error .notFound =>
      if !options.has "c" then
        match ← writeFile path [] true with
        | .ok () => setTime path
        | .error fault => sayFailed "cannot touch" path fault
    | .error fault => sayFailed "cannot touch" path fault

/-- Changes the permissions of a file and, if that is asked for, of all that is in it. -/
def changeTree (isDeep isQuiet : Bool) (mask : Nat) (text : RawText) : Nat → RawText → Tool Unit
  | 0, _ => return
  | fuel + 1, path => do
    match ← statusOf path true with
    | .error fault => if isQuiet then setStatus 1 else sayFailed "cannot access" path fault
    | .ok status =>
      let isFolder := status.kind == .directory
      match changedPermissions? mask isFolder status.permissions text with
      | some permissions => let _ ← ask (.setPermissions path permissions)
      | none => pure ()
      if isDeep && isFolder then
        match ← ask (.namesIn path) with
        | .ok names =>
          for name in names do
            changeTree isDeep isQuiet mask text fuel (inFolder path name)
        | .error _ => pure ()

/-- Whether a word that begins with a dash is a change of permissions and no option. -/
def isPermissionWord : RawText → Bool
  | '-' :: c :: cs => (c :: cs).all fun d => ['r', 'w', 'x', 'X', 's', 't', ',', '+', '=', '-', 'u', 'g',
      'o'].contains d || isOctalDigit d
  | _ => false

def runChangePermissions (arguments : List RawText) : Tool Unit := do
  let (changes, others) := arguments.partition isPermissionWord
  let options ← readOptions 1
    [{ key := "R", letters := "R", name := "recursive" },
      { key := "f", letters := "f", name := "silent" }, { key := "f", name := "quiet" },
      { key := "v", letters := "v", name := "verbose" },
      { key := "c", letters := "c", name := "changes" }]
    others
  let mask ← ask (.setMask 0o022)
  let _ ← ask (.setMask mask)
  match changes ++ options.operands with
  | [] => missingOperand 1
  | [text] => misuse 1 (raw "missing operand after " ++ quoted text)
  | text :: paths =>
    if (changedPermissions? mask false 0 text).isNone then
      misuse 1 (raw "invalid mode: " ++ quoted text)
    for path in paths do
      changeTree (options.has "R") (options.has "f") mask text 100 path

def runSetSize (arguments : List RawText) : Tool Unit := do
  let options ← readOptions 1
    [{ key := "s", letters := "s", name := "size", argument := .required },
      { key := "c", letters := "c", name := "no-create" },
      { key := "o", letters := "o", name := "io-blocks" },
      { key := "r", letters := "r", name := "reference", argument := .required }]
    arguments
  match options.value? "s" with
  | none => misuse 1 (raw "you must specify either '--size' or '--reference'")
  | some text =>
    if options.operands.isEmpty then misuse 1 (raw "missing file operand")
    let (mark, digits) :=
      match text with
      | c :: rest => if c.isDigit then ('=', text) else (c, rest)
      | [] => ('=', text)
    match sizedNumber? digits (some 10) with
    | none => fail 1 (raw "Invalid number: " ++ quoted text)
    | some n =>
      for path in options.operands do
        let opened ← ask (.openFile path { writes := true, creates := !options.has "c" })
        match opened with
        | .error fault =>
          if !(options.has "c" && fault == .notFound) then
            say (raw "cannot open " ++ quoted path ++ raw " for writing: " ++ raw fault.description)
            setStatus 1
        | .ok number =>
          let _ ← ask (.close number)
          let old := match ← statusOf path true with
            | .ok status => status.size
            | .error _ => 0
          let size :=
            match mark with
            | '+' => old + n
            | '-' => old - n
            | '<' => min old n
            | '>' => max old n
            | _ => n
          let _ ← ask (.setSize path size)

/-! ## Names of files -/

def runReadLink (arguments : List RawText) : Tool Unit := do
  let options ← readOptions 1
    [{ key := "f", letters := "f", name := "canonicalize" },
      { key := "e", letters := "e", name := "canonicalize-existing" },
      { key := "m", letters := "m", name := "canonicalize-missing" },
      { key := "n", letters := "n", name := "no-newline" },
      { key := "q", letters := "q", name := "quiet" }, { key := "s", letters := "s", name := "silent" },
      { key := "v", letters := "v", name := "verbose" },
      { key := "z", letters := "z", name := "zero" }]
    arguments
  requireOperand options
  let ending := if options.has "n" then [] else if options.has "z" then ['\x00'] else ['\n']
  for path in options.operands do
    let answer ←
      if options.has "f" || options.has "e" || options.has "m" then do
        match ← ask (.realPath path), options.has "e" with
        | .error .notFound, false => do
          match ← ask (.realPath (folderPart path)) with
          | .ok folder => pure (.ok (inFolder folder (lastPart path)))
          | .error fault => pure (.error fault)
        | answer, _ => pure answer
      else ask (.linkTarget path)
    match answer with
    | .ok shown => put (shown ++ ending)
    | .error fault =>
      if options.has "v" then sayFault path fault
      setStatus 1

def runRealPath (arguments : List RawText) : Tool Unit := do
  let options ← readOptions 1
    [{ key := "e", letters := "e", name := "canonicalize-existing" },
      { key := "m", letters := "m", name := "canonicalize-missing" },
      { key := "s", letters := "s", name := "no-symlinks" },
      { key := "q", letters := "q", name := "quiet" }, { key := "z", letters := "z", name := "zero" }]
    arguments
  requireOperand options
  for path in options.operands do
    let answer ← do
      match ← ask (.realPath path), options.has "e" with
      | .error .notFound, false => do
        match ← ask (.realPath (folderPart path)) with
        | .ok folder => pure (.ok (inFolder folder (lastPart path)))
        | .error fault => pure (.error fault)
      | answer, _ => pure answer
    match answer with
    | .ok shown => put (shown ++ [if options.has "z" then '\x00' else '\n'])
    | .error fault =>
      if !options.has "q" then sayFault path fault
      setStatus 1

/-- Characters that fill the place holders of a temporary name. -/
def nameCharacters : Array Char :=
  "0123456789ABCDEFGHIJKLMNOPQRSTUVWXYZabcdefghijklmnopqrstuvwxyz".toList.toArray

/-- A text of a length that a number determines. -/
def scrambledName (length seed : Nat) : RawText :=
  ((List.range length).foldl
    (fun (text, n) _ =>
      (nameCharacters.getD (n / 65536 % 62) 'x' :: text, (n * 1103515245 + 12345) % twoTo 40))
    (([] : RawText), (seed * 1103515245 + 12345) % twoTo 40)).1

/-- Makes a file or directory with a new name, trying again if there is one of that name. -/
def makeTemporary (isFolder isDry : Bool) (before : RawText) (length : Nat) (after : RawText) :
    Nat → Tool (Fallible RawText)
  | 0 => return .error .alreadyExists
  | fuel + 1 => do
    let path := before ++ scrambledName length ((← ask .clock) + 7919 * (← ask .ownId)) ++ after
    let answer ←
      if isDry then pure (.ok ())
      else if isFolder then ask (.makeDirectory path 0o700)
      else
        match ← ask (.openFile path { writes := true, creates := true, exclusive := true }) with
        | .error fault => pure (.error fault)
        | .ok number => do
          let _ ← ask (.close number)
          let _ ← ask (.setPermissions path 0o600)
          pure (.ok ())
    match answer with
    | .ok () => return .ok path
    | .error .alreadyExists => makeTemporary isFolder isDry before length after fuel
    | .error fault => return .error fault

def runMakeTemporary (arguments : List RawText) : Tool Unit := do
  let options ← readOptions 1
    [{ key := "d", letters := "d", name := "directory" },
      { key := "u", letters := "u", name := "dry-run" },
      { key := "q", letters := "q", name := "quiet" }, { key := "t", letters := "t" },
      { key := "p", letters := "p", argument := .required },
      { key := "p", name := "tmpdir", argument := .possible },
      { key := "suffix", name := "suffix", argument := .required }]
    arguments
  match options.operands with
  | _ :: _ :: _ => misuse 1 (raw "too many templates")
  | _ => pure ()
  let template := options.operands.headD (raw "tmp.XXXXXXXXXX")
  let usesFolder := options.operands.isEmpty || options.has "p" || options.has "t"
  let home := ((← lookupEnvironment "TMPDIR").filter (!·.isEmpty)).getD (raw "/tmp")
  let folder := ((options.value? "p").filter (!·.isEmpty)).getD home
  let path := if usesFolder then inFolder folder template else template
  let suffix := (options.value? "suffix").getD
    ((path.reverse.takeWhile fun c => c != 'X' && c != '/').reverse)
  let body := if options.has "suffix" then path else path.take (path.length - suffix.length)
  let holders := (body.reverse.takeWhile (· == 'X')).length
  if holders < 3 then fail 1 (raw "too few X's in template " ++ quoted template)
  match ← makeTemporary (options.has "d") (options.has "u") (body.take (body.length - holders)) holders
      suffix 100 with
  | .ok path => putLine path
  | .error fault =>
    let kind := if options.has "d" then raw "directory" else raw "file"
    fail 1 (raw "failed to create " ++ kind ++ raw " via template " ++ quoted path ++ raw ": " ++
      raw fault.description)

/-! ## What is known of a file -/

def kindName (status : FileStatus) : RawText :=
  match status.kind with
  | .regular => if status.size = 0 then raw "regular empty file" else raw "regular file"
  | .directory => raw "directory"
  | .link => raw "symbolic link"
  | .device => raw "character special file"
  | .fifo => raw "fifo"

def kindLetter (status : FileStatus) : Char :=
  match status.kind with
  | .regular => '-'
  | .directory => 'd'
  | .link => 'l'
  | .device => 'c'
  | .fifo => 'p'

/-- The permissions as letters, behind the letter of the kind. -/
def permissionLetters (status : FileStatus) : RawText :=
  let three := fun (shift special : Nat) (mark : Char) =>
    let bits := status.permissions / twoTo shift % 8
    let isSpecial := status.permissions &&& special != 0
    let mayRun := bits &&& 1 != 0
    [if bits &&& 4 != 0 then 'r' else '-', if bits &&& 2 != 0 then 'w' else '-',
      if isSpecial then (if mayRun then mark else mark.toUpper) else if mayRun then 'x' else '-']
  kindLetter status :: three 6 0o4000 's' ++ three 3 0o2000 's' ++ three 0 0o1000 't'

/-- Fills a format for what is known of a file. -/
def fillStatus (name : RawText) (status : FileStatus) : RawText → RawText
  | [] => []
  | '%' :: c :: rest =>
    let shown :=
      match c with
      | 'n' => name
      | 'N' => quoted name
      | 's' => naturalText status.size
      | 'F' => kindName status
      | 'a' => digitsInBase 8 status.permissions
      | 'A' => permissionLetters status
      | 'U' | 'G' => raw "root"
      | 'u' | 'g' => ['0']
      | 'h' => ['1']
      | 'i' => naturalText (status.node + 100)
      | 'b' => naturalText ((status.size + 4095) / 4096 * 8)
      | 'B' => raw "512"
      | 'o' => raw "4096"
      | '%' => ['%']
      | _ => ['?']
    shown ++ fillStatus name status rest
  | c :: rest => c :: fillStatus name status rest

def runStatus (arguments : List RawText) : Tool Unit := do
  let options ← readOptions 1
    [{ key := "c", letters := "c", name := "format", argument := .required },
      { key := "printf", name := "printf", argument := .required },
      { key := "L", letters := "L", name := "dereference" }, { key := "t", letters := "t", name := "terse" },
      { key := "f", letters := "f", name := "file-system" }]
    arguments
  requireOperand options
  for name in options.operands do
    match ← statusOf name (options.has "L") with
    | .error fault =>
      say (raw "cannot statx " ++ quoted name ++ raw ": " ++ raw fault.description)
      setStatus 1
    | .ok status =>
      match options.value? "printf" with
      | some format => put (Shell.replaceEscapes (fillStatus name status format)).1
      | none =>
        putLine (fillStatus name status ((options.value? "c").getD (raw "%n %s %a %A")))

end KeyJoin.Tools
