import KeyJoin.Shell.Pattern
import KeyJoin.Tools.Comparing
import KeyJoin.Tools.Dates.Telling
import KeyJoin.Tools.Differences.Printing
import KeyJoin.Tools.Files
import KeyJoin.Tools.RegexSyntax

/-!
# Telling differences

A tool that compares files line by line, and directories file by file.  Files
that hold a byte of zero are only told to differ.  The status says whether any
difference was found, or that something could not be read.
-/

namespace KeyJoin.Tools.Differences

open Tool

/-- How files and directories are compared. -/
structure DiffPlan where
  rules : LineRules := {}
  layout : DiffLayout := {}
  isBrief : Bool := false
  tellsEqual : Bool := false
  isDeep : Bool := false
  takesMissing : Bool := false
  takesMissingFirst : Bool := false
  isText : Bool := false
  labels : List RawText := []
  excluded : List RawText := []
  words : RawText := []
  zone : TimeZone := universalZone
  horizon : Nat := 0
  start : Option RawText := none

/-! ## Files -/

/-- A file to be compared: its text and when it was changed last. -/
structure DiffFile where
  name : RawText
  text : RawText
  instant : Int × Nat

namespace DiffPlan

variable (plan : DiffPlan)

/-- The format of the time in a heading. -/
def timeFormat : String :=
  match plan.layout.style with
  | .context _ => "%a %b %e %T %Y"
  | _ => "%Y-%m-%d %H:%M:%S.%N %z"

def side (file : DiffFile) (label : Option RawText) : DiffSide :=
  let time := (Dates.momentOf plan.zone file.instant).format (raw plan.timeFormat)
  let text := if plan.rules.stripsReturns then withoutReturns file.text else file.text
  let lines := diffLines text
  { name := label.getD file.name
    heading := label.getD (file.name ++ '\t' :: time)
    lines := if plan.rules.completes then lines.map fun line => { line with isEnded := true } else lines }
where
  withoutReturns : RawText → RawText
    | [] => []
    | '\x0d' :: '\n' :: rest => '\n' :: withoutReturns rest
    | c :: rest => c :: withoutReturns rest

/-- The line that tells which files a part of the output is about. -/
def commandLine (old new : DiffSide) : RawText :=
  raw "diff" ++ plan.words ++ ' ' :: shownName old.name ++ ' ' :: shownName new.name

def holdsZero (text : RawText) : Bool :=
  (text.take 4096).contains '\x00'

/-- Compares the texts of two files. -/
def compareFiles (isInner : Bool) (old new : DiffFile) : Tool Unit := do
  let oldSide := plan.side old plan.labels.head?
  let newSide := plan.side new (plan.labels[1]?)
  let tellEqual := do
    if plan.tellsEqual then
      putLine (raw "Files " ++ oldSide.name ++ raw " and " ++ newSide.name ++ raw " are identical")
  let names := oldSide.name ++ raw " and " ++ newSide.name
  let isPlain := plan.isBrief && plan.rules.ignoresNothing
  if isPlain || !plan.isText && (holdsZero old.text || holdsZero new.text) then
    if old.text == new.text then tellEqual
    else
      putLine (raw (if plan.isBrief then "Files " else "Binary files ") ++ names ++ raw " differ")
      setStatus 1
  else
    let around := if plan.isBrief then 0 else max plan.layout.around plan.horizon
    let changes := changesBetweenTexts plan.rules around oldSide.lines newSide.lines
    let ignored := isIgnored plan.rules oldSide.lines newSide.lines
    let differs := !changes.all ignored
    if plan.isBrief then
      if differs then
        putLine (raw "Files " ++ names ++ raw " differ")
        setStatus 1
    else
      if differs || plan.layout.showsEqual then
        let shown := plan.layout.render ignored oldSide newSide changes
        if isInner && !shown.isEmpty then putLine (plan.commandLine oldSide newSide)
        put shown
      if differs then setStatus 1
    let isCut := fun (file : DiffFile) =>
      plan.rules.completes && !file.text.isEmpty && file.text.getLast? != some '\n'
    for (file, side) in [(old, oldSide), (new, newSide)] do
      if isCut file then
        say (side.name ++ raw ": No newline at end of file\n")
        setStatus 2
    if !differs && !isCut old && !isCut new then tellEqual

/-! ## Names -/

/-- What a name stands for: a file that is not there counts as empty if that is asked for. -/
inductive DiffTarget
  | file (file : DiffFile) (node : Option Nat)
  | folder (name : RawText)
  | other (status : FileStatus)

def readTarget (name : RawText) (isMissing : Bool) : Tool (Fallible DiffTarget) := do
  if isMissing then return .ok (.file ⟨name, [], (0, 0)⟩ none)
  let status ← if name == standardInput then ask (.statusOfOpen 0) else ask (.statusOf name true)
  match status with
  | .error fault => return .error fault
  | .ok status =>
    if status.kind == .directory then return .ok (.folder name)
    match ← readFile name with
    | .error fault => return .error fault
    | .ok text =>
      let instant ←
        if name == standardInput then Dates.present
        else pure (Dates.instantOfTicks status.modified)
      return .ok (.file ⟨name, text, instant⟩ (some status.node))

def kindOfTarget (name : RawText) : Tool RawText := do
  match ← ask (.statusOf name true) with
  | .ok status => return kindName status
  | .error _ => return []

/-- Compares what two names stand for. -/
def compareNames :
    Nat → Bool → RawText → RawText → Bool → Bool → Tool Unit
  | 0, _, _, _, _, _ => return
  | fuel + 1, isInner, old, new, oldMissing, newMissing => do
    let sayFaults := fun (answers : List (RawText × Fallible DiffTarget)) => do
      for (name, answer) in answers do
        match answer with
        | .error fault => sayFault name fault
        | .ok _ => pure ()
      setStatus 2
    let oldTarget ← readTarget old oldMissing
    let newTarget ← readTarget new newMissing
    match oldTarget, newTarget with
    | .ok (.folder _), .ok (.folder _) =>
      if isInner && !plan.isDeep then
        putLine (raw "Common subdirectories: " ++ old ++ raw " and " ++ new)
      else
        match ← ask (.namesIn old), ← ask (.namesIn new) with
        | .ok oldNames, .ok newNames =>
          let isKept := fun (name : RawText) =>
            !plan.excluded.any fun pattern => Shell.matchesPattern (Shell.patternOf pattern) name
          let isStarted := fun (name : RawText) =>
            isInner || plan.start.all fun first => textBefore first name
          let names := sortTexts ((oldNames ++ newNames.filter fun name => !oldNames.contains name).filter
            fun name => isKept name && isStarted name)
          for name in names do
            let isOld := oldNames.contains name
            let isNew := newNames.contains name
            let takes := plan.takesMissing || (plan.takesMissingFirst && isNew)
            if isOld && isNew || takes then
              compareNames fuel true (inFolder old name) (inFolder new name) (!isOld) (!isNew)
            else
              putLine (raw "Only in " ++ (if isOld then old else new) ++ raw ": " ++ name)
              setStatus 1
        | _, _ => setStatus 2
    | .ok (.file oldFile oldNode), .ok (.file newFile newNode) =>
      if oldNode.isSome && oldNode == newNode && !plan.layout.showsEqual then
        if plan.tellsEqual then
          putLine (raw "Files " ++ old ++ raw " and " ++ new ++ raw " are identical")
      else plan.compareFiles isInner oldFile newFile
    | .ok (.folder _), .ok (.file newFile _) =>
      if oldMissing || newMissing then compareNames fuel isInner old new oldMissing true
      else if isInner then
        putLine (raw "File " ++ old ++ raw " is a directory while file " ++ newFile.name ++
          raw " is a " ++ (← kindOfTarget new))
        setStatus 1
      else compareNames fuel isInner (inFolder old (lastPart new)) new false false
    | .ok (.file oldFile _), .ok (.folder _) =>
      if isInner then
        putLine (raw "File " ++ oldFile.name ++ raw " is a " ++ (← kindOfTarget old) ++
          raw " while file " ++ new ++ raw " is a directory")
        setStatus 1
      else compareNames fuel isInner old (inFolder new (lastPart old)) false false
    | .error .notFound, .ok _ =>
      if (plan.takesMissing || plan.takesMissingFirst) && !oldMissing then
        compareNames fuel isInner old new true newMissing
      else sayFaults [(old, oldTarget)]
    | .ok _, .error .notFound =>
      if plan.takesMissing && !newMissing then compareNames fuel isInner old new oldMissing true
      else sayFaults [(new, newTarget)]
    | oldTarget, newTarget => sayFaults [(old, oldTarget), (new, newTarget)]

end DiffPlan

/-! ## Options -/

def diffRules : List OptionRule :=
  letterRules "0123456789" ++
  [{ key := "c", letters := "c" }, { key := "C", letters := "C", argument := .required },
    { key := "u", letters := "u" }, { key := "U", letters := "U", argument := .required },
    { key := "binary", name := "binary" }, { key := "q", letters := "q", name := "brief" },
    { key := "changed-group", name := "changed-group-format", argument := .required },
    { key := "color", name := "color", argument := .possible },
    { key := "C", name := "context", argument := .possible },
    { key := "e", letters := "e", name := "ed" },
    { key := "x", letters := "x", name := "exclude", argument := .required },
    { key := "X", letters := "X", name := "exclude-from", argument := .required },
    { key := "t", letters := "t", name := "expand-tabs" },
    { key := "f", letters := "f", name := "forward-ed" },
    { key := "from", name := "from-file", argument := .required },
    { key := "horizon", name := "horizon-lines", argument := .required },
    { key := "D", letters := "D", name := "ifdef", argument := .required },
    { key := "w", letters := "w", name := "ignore-all-space" },
    { key := "B", letters := "B", name := "ignore-blank-lines" },
    { key := "i", letters := "i", name := "ignore-case" },
    { key := "case", name := "ignore-file-name-case" },
    { key := "I", letters := "I", name := "ignore-matching-lines", argument := .required },
    { key := "b", letters := "b", name := "ignore-space-change" },
    { key := "E", letters := "E", name := "ignore-tab-expansion" },
    { key := "Z", letters := "Z", name := "ignore-trailing-space" },
    { key := "merge", name := "inhibit-hunk-merge" },
    { key := "T", letters := "T", name := "initial-tab" },
    { key := "label", letters := "L", name := "label", argument := .required },
    { key := "left", name := "left-column" },
    { key := "line", name := "line-format", argument := .required },
    { key := "d", letters := "d", name := "minimal" },
    { key := "N", letters := "N", name := "new-file" },
    { key := "new-group", name := "new-group-format", argument := .required },
    { key := "new-line", name := "new-line-format", argument := .required },
    { key := "dereference", name := "no-dereference" },
    { key := "nocase", name := "no-ignore-file-name-case" }, { key := "normal", name := "normal" },
    { key := "old-group", name := "old-group-format", argument := .required },
    { key := "old-line", name := "old-line-format", argument := .required },
    { key := "l", letters := "l", name := "paginate" },
    { key := "palette", name := "palette", argument := .required },
    { key := "n", letters := "n", name := "rcs" }, { key := "r", letters := "r", name := "recursive" },
    { key := "s", letters := "s", name := "report-identical-files" },
    { key := "p", letters := "p", name := "show-c-function" },
    { key := "F", letters := "F", name := "show-function-line", argument := .required },
    { key := "y", letters := "y", name := "side-by-side" },
    { key := "H", letters := "H", name := "speed-large-files" },
    { key := "S", letters := "S", name := "starting-file", argument := .required },
    { key := "strip", name := "strip-trailing-cr" }, { key := "blank", name := "suppress-blank-empty" },
    { key := "suppress", name := "suppress-common-lines" },
    { key := "tabsize", name := "tabsize", argument := .required },
    { key := "a", letters := "a", name := "text" },
    { key := "to", name := "to-file", argument := .required },
    { key := "unchanged-group", name := "unchanged-group-format", argument := .required },
    { key := "unchanged-line", name := "unchanged-line-format", argument := .required },
    { key := "P", letters := "P", name := "unidirectional-new-file" },
    { key := "U", name := "unified", argument := .possible },
    { key := "W", letters := "W", name := "width", argument := .required }]

/-- The number of lines whose digits are options of their own.  Digits belong together if no other
option stands between them. -/
def digitContext (options : GivenOptions) : Option Nat :=
  (options.given.foldl
    (fun ((count, wasDigit) : Option Nat × Bool) entry =>
      match entry.1.toList with
      | [c] =>
        if !c.isDigit then (count, false)
        else if wasDigit then (some (count.getD 0 * 10 + digitValue c), true)
        else (some (digitValue c), true)
      | _ => (count, false))
    (none, false)).1

/-- The kinds of layout that options ask for. -/
inductive StyleKind
  | normal
  | context
  | unified
  | editor
  | forward
  | counted
  | columns
  | groups
deriving DecidableEq

def styleKind? : String → Option StyleKind
  | "normal" => some .normal
  | "c" | "C" => some .context
  | "u" | "U" => some .unified
  | "e" => some .editor
  | "f" => some .forward
  | "n" => some .counted
  | "y" => some .columns
  | "D" | "old-group" | "new-group" | "unchanged-group" | "changed-group" | "line" | "old-line" | "new-line"
  | "unchanged-line" => some .groups
  | _ => none

/-- What the options up to some point say about the layout. -/
structure StyleChoice where
  kind : Option StyleKind := none
  around : Nat := 0
  isExplicit : Bool := false
  formats : List (String × RawText) := []

/-- The formats that mark lines for a compiler by a name. -/
def conditionFormats (name : RawText) : List (String × RawText) :=
  let start := raw "#ifdef " ++ name ++ ['\n']
  let startNot := raw "#ifndef " ++ name ++ ['\n']
  let stop := fun (negation : String) => raw "#endif /* " ++ raw negation ++ name ++ raw " */\n"
  [("unchanged-group", raw "%="), ("old-group", startNot ++ raw "%<" ++ stop "! "),
    ("new-group", start ++ raw "%>" ++ stop ""),
    ("changed-group", startNot ++ raw "%<#else /* " ++ name ++ raw " */\n%>" ++ stop "")]

namespace StyleChoice

/-- Sets formats that no earlier option has set to something else. -/
def settle (choice : StyleChoice) (option : String) (formats : List (String × RawText)) :
    Tool StyleChoice :=
  formats.foldlM
    (fun choice (key, text) => do
      match choice.formats.lookup key with
      | none => return { choice with formats := choice.formats ++ [(key, text)] }
      | some settled =>
        if settled == text then return choice
        namedMisuse 2 (raw "conflicting " ++ raw option ++ raw " option value " ++ quoted text))
    choice

/-- Takes one more option into account. -/
def take (choice : StyleChoice) (key : String) (value : RawText) : Tool StyleChoice := do
  let length ←
    if key == "c" || key == "u" || (key == "C" || key == "U") && value.isEmpty then pure 3
    else if key == "C" || key == "U" then
      match natural? value with
      | some n => pure n
      | none => namedMisuse 2 (raw "invalid context length " ++ quoted value)
    else pure 0
  match styleKind? key with
  | none => return choice
  | some kind =>
    if choice.kind.any (· != kind) then namedMisuse 2 (raw "conflicting output style options")
    let choice :=
      { choice with
        kind := some kind, around := max choice.around length
        isExplicit := choice.isExplicit || key == "C" || key == "U" }
    match key with
    | "D" => choice.settle "-D" (conditionFormats value)
    | "line" =>
      choice.settle "--line-format" (["unchanged-line", "old-line", "new-line"].map fun key => (key, value))
    | _ =>
      if kind == .groups then choice.settle ("--" ++ key ++ "-format") [(key, value)] else return choice

def groupFormats (choice : StyleChoice) : GroupFormats :=
  let format? := fun key => choice.formats.lookup key
  let line := fun key => (format? key).getD (raw "%l\n")
  let changed := format? "changed-group"
  let oldGroup := ((format? "old-group") <|> changed).getD (raw "%<")
  let newGroup := ((format? "new-group") <|> changed).getD (raw "%>")
  { unchangedGroup := (format? "unchanged-group").getD (raw "%=")
    oldGroup := oldGroup
    newGroup := newGroup
    changedGroup := changed.getD (oldGroup ++ newGroup)
    unchangedLine := line "unchanged-line"
    oldLine := line "old-line"
    newLine := line "new-line" }

/-- The layout that all options together ask for.  A number of lines given by digits alone counts
unless a longer one was asked for. -/
def style (choice : StyleChoice) (showsFunctions : Bool) (digits : Option Nat) : DiffStyle :=
  let choice :=
    if choice.kind.isNone && showsFunctions then
      { choice with kind := some .context, around := if digits.isSome then choice.around else 3 }
    else choice
  let around := match digits with
    | some n => if choice.around < n || !choice.isExplicit then n else choice.around
    | none => choice.around
  match choice.kind with
  | some .context => .context around
  | some .unified => .unified around
  | some .editor => .editor
  | some .forward => .forward
  | some .counted => .counted
  | some .columns => .columns
  | some .groups => .groups choice.groupFormats
  | some .normal | none => .normal

end StyleChoice

def readStyle (options : GivenOptions) : Tool DiffStyle := do
  let choice ← options.given.foldlM (fun choice entry => choice.take entry.1 entry.2) ({} : StyleChoice)
  return choice.style (options.has "p") (digitContext options)

def readExpression (text : RawText) : Tool Regex := do
  match Regex.read {} text with
  | .ok (regex, _) => return regex
  | .error fault => fail 2 (text ++ raw ": " ++ raw fault.description)

def readPlan (options : GivenOptions) (words : RawText) : Tool DiffPlan := do
  let style ← readStyle options
  let functionLine ←
    match options.value? "F" with
    | some text => some <$> readExpression text
    | none => if options.has "p" then some <$> readExpression (raw "^[[:alpha:]$_]") else pure none
  let ignored ← (options.values "I").mapM readExpression
  let space : SpaceRule :=
    if options.has "w" then .all
    else if options.has "b" then .change
    else if options.has "Z" then .trailing
    else .none
  let isEditor := match style with
    | .editor | .forward => true
    | _ => false
  let number := fun (key : String) (what : String) (usual : Nat) => do
    match options.value? key with
    | none => pure usual
    | some text =>
      for other in options.values key do
        if (natural? other).all (· = 0) then
          namedMisuse 2 (raw "invalid " ++ raw what ++ ' ' :: quoted other)
        if natural? other != natural? text then
          fail 2 (raw "conflicting " ++ raw what ++ raw " options")
      pure ((natural? text).getD usual)
  let horizon ←
    match options.value? "horizon" with
    | none => pure 0
    | some text =>
      match natural? text with
      | some n => pure n
      | none => namedMisuse 2 (raw "invalid horizon length " ++ quoted text)
  match (options.value? "color").filter (!·.isEmpty) with
  | none => pure ()
  | some text =>
    if !(["auto", "always", "never"].contains (String.ofList text)) then
      namedMisuse 2 (raw "invalid color " ++ quoted text)
  let width ← number "W" "width" 130
  let tabSize ← number "tabsize" "tabsize" 8
  let mut excluded := options.values "x"
  for name in options.values "X" do
    match ← readFile name with
    | .ok text => excluded := excluded ++ plainLines text
    | .error fault =>
      sayFault name fault
      exit 2
  return {
    rules :=
      { ignoresCase := options.has "i", space := space, expandsTabs := options.has "E"
        stripsReturns := options.has "strip", ignoresBlank := options.has "B", ignored := ignored
        keepsAll := options.has "d", completes := isEditor }
    layout :=
      { style := style, startsWithTab := options.has "T", expandsTabs := options.has "t"
        tabSize := tabSize, leavesBlankEmpty := options.has "blank", functionLine := functionLine
        width := width, leftOnly := options.has "left", hidesCommon := options.has "suppress" }
    isBrief := options.has "q"
    tellsEqual := options.has "s"
    isDeep := options.has "r"
    takesMissing := options.has "N"
    takesMissingFirst := options.has "P"
    isText := options.has "a"
    labels := options.values "label"
    excluded := excluded
    words := words
    zone := ← Dates.environmentZone
    horizon := horizon
    start := options.value? "S" }

/-- The words of a call that are no operands, as they are shown again. -/
def optionWords (arguments operands : List RawText) : RawText :=
  let (words, _) := arguments.foldl
    (fun ((words, left) : RawText × List RawText) word =>
      if left.contains word then (words, left.erase word) else (words ++ ' ' :: shownName word, left))
    ([], operands)
  words

def runDifferences (arguments : List RawText) : Tool Unit := do
  modify fun state => { state with usage := state.name ++ raw ": " }
  let options ← readOptions 2 diffRules arguments
  let plan ← readPlan options (optionWords arguments options.operands)
  for name in options.values "S" do
    if some name != options.value? "S" then
      namedMisuse 2 (raw "conflicting -S option value " ++ quoted ((options.value? "S").getD []))
  if 2 < (options.values "label").length then fail 2 (raw "too many file label options")
  let name := (← get).name
  let compare := fun (old new : RawText) => plan.compareNames 100 false old new false false
  match options.value? "from", options.value? "to" with
  | some _, some _ => fail 2 (raw "--from-file and --to-file both specified")
  | some first, none =>
    for operand in options.operands do
      compare first operand
  | none, some last =>
    for operand in options.operands do
      compare operand last
  | none, none =>
    match options.operands with
    | [] => namedMisuse 2 (raw "missing operand after " ++ quoted (arguments.getLastD name))
    | [a] => namedMisuse 2 (raw "missing operand after " ++ quoted a)
    | [a, b] => compare a b
    | _ :: _ :: operand :: _ => namedMisuse 2 (raw "extra operand " ++ quoted operand)

end KeyJoin.Tools.Differences
