import KeyJoin.Shell.Pattern
import KeyJoin.Tools.Dates.Telling
import KeyJoin.Tools.Files
import KeyJoin.Tools.RegexSyntax

/-!
# Expressions about files

An expression is made of tests and actions with `not`, `and`, `or` and commas.
It is read from words: first the paths to start from, then the expression, in
which words for the search as a whole may stand anywhere.  If nothing is to be
done with a file that passes, its path is printed.
-/

namespace KeyJoin.Tools.Finding

open Tool

/-- A number that is to be exceeded, met or not reached. -/
structure CountRule where
  order : Ordering
  count : Nat

def CountRule.holds (rule : CountRule) (n : Nat) : Bool :=
  compare n rule.count == rule.order

inductive PermissionRule
  | exactly
  | all
  | any
  deriving DecidableEq

inductive FileTest
  | name (pattern : List Shell.PatternItem) (ignoresCase : Bool)
  | path (pattern : List Shell.PatternItem) (ignoresCase : Bool)
  | linkName (pattern : List Shell.PatternItem) (ignoresCase : Bool)
  | wholePath (regex : Regex)
  | kind (letters : RawText) (follows : Bool)
  | size (rule : CountRule) (unit : Nat)
  | empty
  | newer (time : Nat)
  | days (rule : CountRule)
  | minutes (rule : CountRule)
  | permissions (rule : PermissionRule) (bits : Nat)
  | links (rule : CountRule)
  | node (rule : CountRule)
  | sameNode (node : Nat)
  | mayRun
  | constant (value : Bool)

inductive FileAction
  | print (ending : Char) (output : Option Nat)
  | format (text : RawText) (output : Option Nat)
  | list (output : Option Nat)
  | run (words : List RawText) (inFolder asks : Bool)
  | runTogether (index : Nat) (words : List RawText) (inFolder : Bool)
  | delete
  | prune
  | quit

inductive FindExpression
  | test (test : FileTest)
  | action (action : FileAction)
  | negation (expression : FindExpression)
  | both (first second : FindExpression)
  | either (first second : FindExpression)
  | sequence (first second : FindExpression)

/-- How links are treated: as links, as what they lead to, or so only where the search starts. -/
inductive LinkRule
  | never
  | always
  | atStart
  deriving DecidableEq

/-- What holds for the search as a whole. -/
structure FindPlan where
  links : LinkRule := .never
  deepest : Option Nat := none
  leastDeep : Nat := 0
  folderLast : Bool := false
  fromDayStart : Bool := false
  regexRules : RegexNotation := {}
  usesEmacs : Bool := true
  batches : Nat := 0
  acts : Bool := false
  zone : TimeZone := universalZone

/-- The words that are left, the last test that was read, and the plan. -/
structure ExpressionReading where
  words : List RawText
  lastTest : RawText := []
  plan : FindPlan := {}

abbrev ReadExpression := StateT ExpressionReading Tool

/-- A word as messages show it. -/
def backQuoted (text : RawText) : RawText :=
  '\x60' :: text ++ ['\'']

/-- The words that begin an expression. -/
def beginsExpression (word : RawText) : Bool :=
  match word with
  | '-' :: _ :: _ => true
  | _ => word == ['('] || word == ['!']

namespace ReadExpression

def failWith {α : Type} (text : RawText) : ReadExpression α :=
  fun _ => Tool.fail 1 text

def takeArgument (test : RawText) : ReadExpression RawText := do
  match (← get).words with
  | [] => failWith (raw "missing argument to " ++ backQuoted test)
  | word :: words =>
    modify fun reading => { reading with words := words }
    return word

def setPlan (change : FindPlan → FindPlan) : ReadExpression Unit :=
  modify fun reading => { reading with plan := change reading.plan }

def pattern (test : RawText) (ignoresCase : Bool) : ReadExpression (List Shell.PatternItem) := do
  let text ← takeArgument test
  return Shell.patternOf (if ignoresCase then text.map Char.toLower else text)

/-- A number behind a sign that tells how it is compared. -/
def countRule? (text : RawText) : Option CountRule :=
  match text with
  | '+' :: digits => (natural? digits).map fun n => ⟨.gt, n⟩
  | '-' :: digits => (natural? digits).map fun n => ⟨.lt, n⟩
  | digits => (natural? digits).map fun n => ⟨.eq, n⟩

def count (test : RawText) : ReadExpression CountRule := do
  let text ← takeArgument test
  match countRule? text with
  | some rule => return rule
  | none => failWith (raw "invalid argument " ++ backQuoted text ++ raw " to " ++ backQuoted test)

def depth (test : RawText) : ReadExpression Nat := do
  let text ← takeArgument test
  match natural? text with
  | some n => return n
  | none =>
    failWith (raw "Expected a positive decimal integer argument to " ++ test ++ raw ", but got " ++
      quoted text)

def sizeRule (test : RawText) : ReadExpression FileTest := do
  let text ← takeArgument test
  let (digits, unit?) : RawText × Option Nat :=
    match text.getLast? with
    | some 'c' => (text.dropLast, some 1)
    | some 'w' => (text.dropLast, some 2)
    | some 'b' => (text.dropLast, some 512)
    | some 'k' => (text.dropLast, some 1024)
    | some 'M' => (text.dropLast, some 1048576)
    | some 'G' => (text.dropLast, some 1073741824)
    | some c => (text, if c.isDigit then some 512 else none)
    | none => (text, none)
  match unit?, countRule? digits with
  | some unit, some rule => return .size rule unit
  | none, _ =>
    match text.getLast? with
    | some c => failWith (raw "invalid " ++ test ++ raw " type " ++ backQuoted [c])
    | none => failWith (raw "invalid null argument to -size")
  | _, none => failWith (raw "Invalid argument " ++ backQuoted text ++ raw " to " ++ test)

def kindRule (test : RawText) (follows : Bool) : ReadExpression FileTest := do
  let text ← takeArgument test
  if text.isEmpty then
    failWith (raw "Arguments to " ++ test ++ raw " should contain at least one letter")
  if text.getLast? == some ',' then
    failWith (raw "Last file type in list argument to " ++ test ++
      raw " is missing, i.e., list is ending on: ','")
  let letters ← (splitAtAll ',' text).mapM fun part => do
    match part with
    | [c] =>
      if ['b', 'c', 'd', 'p', 'f', 'l', 's', 'D'].contains c then pure c
      else failWith (raw "Unknown argument to " ++ test ++ raw ": " ++ [c])
    | c :: _ :: _ =>
      if ['b', 'c', 'd', 'p', 'f', 'l', 's', 'D'].contains c then
        failWith (raw "Must separate multiple arguments to " ++ test ++ raw " using: ','")
      else failWith (raw "Unknown argument to " ++ test ++ raw ": " ++ [c])
    | [] => failWith (raw "Unknown argument to " ++ test ++ raw ": ,")
  return .kind letters follows

def permissionRule (test : RawText) : ReadExpression FileTest := do
  let text ← takeArgument test
  let (rule, body) : PermissionRule × RawText :=
    match text with
    | '-' :: body => (.all, body)
    | '/' :: body => (.any, body)
    | body => (.exactly, body)
  match changedPermissions? 0 false 0 body with
  | some bits => return .permissions rule bits
  | none => failWith (raw "invalid mode " ++ quoted text)

/-- The status of a file that a test compares with. -/
def referenceStatus (name : RawText) : ReadExpression FileStatus := do
  match ← (ask (.statusOf name true) : Tool _) with
  | .ok status => return status
  | .error fault => failWith (quoted name ++ raw ": " ++ raw fault.description)

/-- A test for what is newer than a time that is told in words. -/
def newerThanTime (test : RawText) : ReadExpression FileTest := do
  let text ← takeArgument test
  let now ← (Dates.present : Tool _)
  match Dates.readDate? (← get).plan.zone now text with
  | some instant => return .newer (Dates.ticksOfInstant instant)
  | none =>
    failWith (raw "I cannot figure out how to interpret " ++ quoted text ++ raw " as a date or time")

/-- Whether there is a user or group of a name, and whether it owns the files. -/
def ownerRule (test table what : RawText) : ReadExpression FileTest := do
  let text ← takeArgument test
  if text == raw "root" then return .constant true
  match natural? text with
  | some n => return .constant (n == 0)
  | none =>
    let rows ←
      match ← (readFile table : Tool _) with
      | .ok rows => pure (plainLines rows)
      | .error _ => pure []
    if rows.any fun row => row.takeWhile (· != ':') == text then return .constant false
    failWith (quoted text ++ raw " is not the name of " ++ what)

/-- A regular expression with its special characters as one notation has them without and another
one with backslashes. -/
def fromEmacs : RawText → RawText
  | '\\' :: c :: rest =>
    if c == '(' || c == ')' || c == '|' then c :: fromEmacs rest else '\\' :: c :: fromEmacs rest
  | c :: rest =>
    if ['(', ')', '|', '\x7b', '\x7d'].contains c then '\\' :: c :: fromEmacs rest
    else c :: fromEmacs rest
  | [] => []

def regexRule (test : RawText) (ignoresCase : Bool) : ReadExpression FileTest := do
  let text ← takeArgument test
  let plan := (← get).plan
  let (rules, text) : RegexNotation × RawText :=
    if plan.usesEmacs then ({ isExtended := true }, fromEmacs text) else (plan.regexRules, text)
  match Regex.read { rules with ignoresCase := ignoresCase } text with
  | .ok (regex, _) => return .wholePath regex
  | .error fault =>
    failWith (raw "failed to compile regular expression " ++ quoted text ++ raw ": " ++
      raw fault.description)

def regexTypes : List (String × RegexNotation × Bool) :=
  [("findutils-default", {}, true), ("ed", {}, false), ("emacs", {}, true),
    ("gnu-awk", { isExtended := true }, false), ("grep", {}, false),
    ("posix-awk", { isExtended := true }, false), ("awk", { isExtended := true }, false),
    ("posix-basic", {}, false), ("posix-egrep", { isExtended := true }, false),
    ("egrep", { isExtended := true }, false), ("posix-extended", { isExtended := true }, false),
    ("posix-minimal-basic", {}, false), ("sed", {}, false)]

/-- The words of a command up to its end; the answer tells whether files are gathered for it. -/
def commandWords (test : RawText) : List RawText → List RawText →
    ReadExpression (List RawText × Bool × List RawText)
  | [], _ => failWith (raw "missing argument to " ++ backQuoted test)
  | word :: rest, words =>
    if word == [';'] then return (words.reverse, false, rest)
    else if word == ['+'] && words.head? == some ['\x7b', '\x7d'] then
      return ((words.drop 1).reverse, true, rest)
    else commandWords test rest (word :: words)

def command (test : RawText) (inFolder asks : Bool) : ReadExpression FileAction := do
  let (words, together, rest) ← commandWords test (← get).words []
  modify fun reading => { reading with words := rest }
  if words.isEmpty then failWith (raw "missing argument to " ++ backQuoted test)
  if together && words.contains ['\x7b', '\x7d'] then
    failWith (raw "Only one instance of \x7b\x7d is supported with " ++ test ++ raw " ... +")
  if together && !asks then
    let index := (← get).plan.batches
    setPlan fun plan => { plan with batches := index + 1 }
    return .runTogether index words inFolder
  return .run words inFolder asks

def outputFile (test : RawText) : ReadExpression (Option Nat) := do
  let name ← takeArgument test
  match ← (ask (.openFile name { writes := true, creates := true, truncates := true }) : Tool _) with
  | .ok number => return some number
  | .error fault => failWith (quoted name ++ raw ": " ++ raw fault.description)

def passing : ReadExpression FindExpression :=
  return .test (.constant true)

def acting (action : FileAction) : ReadExpression FindExpression := do
  setPlan fun plan => { plan with acts := true }
  return .action action

/-- Reads what a word with a dash stands for. -/
def named (word : RawText) : ReadExpression FindExpression := do
  let test := fun (read : ReadExpression FileTest) => do return FindExpression.test (← read)
  modify fun reading => { reading with lastTest := word }
  match String.ofList word with
  | "-name" => test do return .name (← pattern word false) false
  | "-iname" => test do return .name (← pattern word true) true
  | "-path" | "-wholename" => test do return .path (← pattern word false) false
  | "-ipath" | "-iwholename" => test do return .path (← pattern word true) true
  | "-lname" => test do return .linkName (← pattern word false) false
  | "-ilname" => test do return .linkName (← pattern word true) true
  | "-regex" => test (regexRule word false)
  | "-iregex" => test (regexRule word true)
  | "-type" => test (kindRule word false)
  | "-xtype" => test (kindRule word true)
  | "-size" => test (sizeRule word)
  | "-empty" => return .test .empty
  | "-newer" | "-anewer" | "-cnewer" | "-newermm" | "-neweram" | "-newercm" =>
    test do return .newer (← referenceStatus (← takeArgument word)).modified
  | "-newermt" | "-newerat" | "-newerct" => test (newerThanTime word)
  | "-mtime" | "-atime" | "-ctime" => test do return .days (← count word)
  | "-mmin" | "-amin" | "-cmin" => test do return .minutes (← count word)
  | "-used" => test do return .constant ((← count word).holds 0)
  | "-perm" => test (permissionRule word)
  | "-links" => test do return .links (← count word)
  | "-inum" => test do return .node (← count word)
  | "-samefile" => test do return .sameNode (← referenceStatus (← takeArgument word)).node
  | "-user" => test (ownerRule word (raw "/etc/passwd") (raw "a known user"))
  | "-group" => test (ownerRule word (raw "/etc/group") (raw "an existing group"))
  | "-uid" | "-gid" => test do return .constant ((← count word).holds 0)
  | "-nouser" | "-nogroup" => return .test (.constant false)
  | "-fstype" => test do
    let _ ← takeArgument word
    return .constant false
  | "-readable" | "-writable" => passing
  | "-executable" => return .test .mayRun
  | "-true" => passing
  | "-false" => return .test (.constant false)
  | "-maxdepth" => do
    let n ← depth word
    setPlan fun plan => { plan with deepest := some n }
    passing
  | "-mindepth" => do
    let n ← depth word
    setPlan fun plan => { plan with leastDeep := n }
    passing
  | "-depth" | "-d" => do
    setPlan fun plan => { plan with folderLast := true }
    passing
  | "-daystart" => do
    setPlan fun plan => { plan with fromDayStart := true }
    passing
  | "-follow" => do
    setPlan fun plan => { plan with links := .always }
    passing
  | "-mount" | "-xdev" | "-noleaf" | "-warn" | "-nowarn" | "-ignore_readdir_race"
  | "-noignore_readdir_race" => passing
  | "-regextype" => do
    let text ← takeArgument word
    match regexTypes.find? fun entry => raw entry.1 == text with
    | some (_, rules, usesEmacs) =>
      setPlan fun plan => { plan with regexRules := rules, usesEmacs := usesEmacs }
      passing
    | none =>
      failWith (raw "Unknown regular expression type " ++ quoted text ++ raw "; valid types are " ++
        (raw ", ").intercalate (regexTypes.map fun entry => quoted (raw entry.1)) ++ ['.'])
  | "-print" => acting (.print '\n' none)
  | "-print0" => acting (.print '\x00' none)
  | "-fprint" => do acting (.print '\n' (← outputFile word))
  | "-fprint0" => do acting (.print '\x00' (← outputFile word))
  | "-printf" => do acting (.format (← takeArgument word) none)
  | "-fprintf" => do
    let output ← outputFile word
    acting (.format (← takeArgument word) output)
  | "-ls" => acting (.list none)
  | "-fls" => do acting (.list (← outputFile word))
  | "-exec" => do acting (← command word false false)
  | "-execdir" => do acting (← command word true false)
  | "-ok" => do acting (← command word false true)
  | "-okdir" => do acting (← command word true true)
  | "-delete" => do
    setPlan fun plan => { plan with folderLast := true }
    acting .delete
  | "-prune" => return .action .prune
  | "-quit" => return .action .quit
  | _ => failWith (raw "unknown predicate " ++ backQuoted word)

/-- The tests whose argument a shell may have taken for a pattern of its own. -/
def patternTests : List String :=
  ["-name", "-iname", "-path", "-ipath", "-wholename", "-iwholename", "-lname", "-ilname"]

def isOr (word : RawText) : Bool :=
  word == raw "-o" || word == raw "-or"

def isAnd (word : RawText) : Bool :=
  word == raw "-a" || word == raw "-and"

def isNot (word : RawText) : Bool :=
  word == ['!'] || word == raw "-not"

def drop : ReadExpression Unit :=
  modify fun reading => { reading with words := reading.words.drop 1 }

/-- Fails if nothing follows an operator. -/
def requireMore (operator : RawText) : ReadExpression Unit := do
  if (← get).words.isEmpty then
    failWith (raw "expected an expression after " ++ quoted operator)

mutual

def sequence : Nat → ReadExpression FindExpression
  | 0 => failWith (raw "invalid expression")
  | fuel + 1 => do
    let first ← alternative fuel
    match (← get).words with
    | [','] :: _ =>
      drop
      requireMore [',']
      return .sequence first (← sequence fuel)
    | _ => return first

def alternative : Nat → ReadExpression FindExpression
  | 0 => failWith (raw "invalid expression")
  | fuel + 1 => do
    let first ← conjunction fuel
    match (← get).words with
    | word :: _ =>
      if isOr word then
        drop
        requireMore word
        return .either first (← alternative fuel)
      else return first
    | [] => return first

def conjunction : Nat → ReadExpression FindExpression
  | 0 => failWith (raw "invalid expression")
  | fuel + 1 => do
    let first ← primary fuel
    match (← get).words with
    | word :: _ =>
      if isAnd word then
        drop
        requireMore word
        return .both first (← conjunction fuel)
      else if isOr word || word == [','] || word == [')'] then return first
      else return .both first (← conjunction fuel)
    | [] => return first

def primary : Nat → ReadExpression FindExpression
  | 0 => failWith (raw "invalid expression")
  | fuel + 1 => do
    match (← get).words with
    | [] => failWith (raw "invalid expression")
    | word :: rest =>
      if isNot word then
        drop
        requireMore word
        return .negation (← primary fuel)
      else if word == ['('] then
        drop
        if rest.head? == some [')'] then
          failWith (raw "invalid expression; empty parentheses are not allowed.")
        if rest.isEmpty then
          failWith (raw "invalid expression; I was expecting to find a ')' somewhere but did not see one.")
        let inner ← sequence fuel
        if (← get).words.head? != some [')'] then
          failWith (raw "invalid expression; I was expecting to find a ')' somewhere but did not see one.")
        drop
        return inner
      else if word == [')'] then failWith (raw "invalid expression; you have too many ')'")
      else if isOr word || isAnd word || word == [','] then
        failWith (raw "invalid expression; you have used a binary operator " ++ quoted word ++
          raw " with nothing before it.")
      else if beginsExpression word then
        drop
        named word
      else
        let last := (← get).lastTest
        (say (raw "paths must precede expression: " ++ backQuoted word) : Tool Unit)
        let isThere := (← (ask (.statusOf word true) : Tool _)).toOption.isSome
        if isThere && patternTests.contains (String.ofList last) then
          (say (raw "possible unquoted pattern after predicate " ++ backQuoted last ++ ['?']) : Tool Unit)
        (Tool.exit 1 : Tool _)

end

end ReadExpression

/-- Reads an expression and what it says about the search. -/
def readFindExpression (plan : FindPlan) (words : List RawText) :
    Tool (FindExpression × FindPlan) := do
  let print := FindExpression.action (.print '\n' none)
  if words.isEmpty then return (print, plan)
  let (expression, reading) ← (ReadExpression.sequence (4 * words.length + 8)).run
    { words := words, plan := plan }
  if reading.words.head? == some [')'] then fail 1 (raw "you have too many ')'")
  let expression := if reading.plan.acts then expression else .both expression print
  return (expression, reading.plan)

end KeyJoin.Tools.Finding
