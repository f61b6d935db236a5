import KeyJoin.Tools.Editing.Script
import KeyJoin.Tools.RegexSyntax

/-!
# Reading scripts for editing lines

A script is read from one or more expressions, command by command.  What is
wrong with it is told with the number of the expression and how far it had been
read.
-/

namespace KeyJoin.Tools.Editing

/-- The text left of an expression, the places of the open blocks, and the script so far. -/
structure ReaderState where
  rest : RawText
  script : Script := {}
  blocks : List Nat := []

/-- A fault in a script, with the text that was left; nothing left means that no place is told. -/
structure ScriptFault where
  message : RawText
  left : Option Nat

abbrev Reader := StateT ReaderState (Except ScriptFault)

namespace Reader

def refuse {α : Type} (message : String) : Reader α := do
  throw ⟨raw message, some (← get).rest.length⟩

/-- Takes the next character. -/
def take : Reader (Option Char) := do
  match (← get).rest with
  | [] => return none
  | c :: rest =>
    modify fun state => { state with rest := rest }
    return some c

/-- Puts a character back. -/
def putBack (c : Option Char) : Reader Unit :=
  match c with
  | none => return
  | some c => modify fun state => { state with rest := c :: state.rest }

def dropWhile (p : Char → Bool) : Reader Unit :=
  modify fun state => { state with rest := state.rest.dropWhile p }

def takeSpan (p : Char → Bool) : Reader RawText := do
  let text := (← get).rest.takeWhile p
  modify fun state => { state with rest := state.rest.drop text.length }
  return text

/-- Takes the next character that is no blank. -/
def takeVisible : Reader (Option Char) := do
  dropWhile isBlankByte
  take

def takeNumber (first : Char) : Reader Nat := do
  return readInBase 10 (first :: (← takeSpan Char.isDigit))

/-! ## Delimited texts -/

/-- The text of a set of an expression from its opening bracket on, and what follows it. -/
def bracketText : Nat → RawText → Option (RawText × RawText)
  | 0, _ => none
  | fuel + 1, text =>
    let (start, rest) :=
      match text with
      | '[' :: '^' :: ']' :: rest => (['[', '^', ']'], rest)
      | '[' :: '^' :: rest => (['[', '^'], rest)
      | '[' :: ']' :: rest => (['[', ']'], rest)
      | c :: rest => ([c], rest)
      | [] => ([], [])
    let rec members : Nat → RawText → RawText → Option (RawText × RawText)
      | 0, _, _ => none
      | _, _, [] => none
      | _, out, ']' :: rest => some ((']' :: out).reverse, rest)
      | _, _, '\n' :: _ => none
      | n + 1, out, '[' :: mark :: rest =>
        if mark == ':' || mark == '.' || mark == '=' then
          let inner := rest.takeWhile fun c => c != ']' && c != '\n'
          match rest.drop inner.length with
          | ']' :: after =>
            if inner.getLast? == some mark then
              members n (']' :: inner.reverse ++ mark :: '[' :: out) after
            else members n ('[' :: out) (mark :: rest)
          | _ => members n ('[' :: out) (mark :: rest)
        else members n ('[' :: out) (mark :: rest)
      | n + 1, out, '\\' :: 'n' :: rest => members n ('\n' :: out) rest
      | n + 1, out, c :: rest => members n (c :: out) rest
    members (fuel + 1) start.reverse rest

/-- Takes the text up to a delimiter.  In an expression a set may hold the delimiter, and an escaped
line feed is one. -/
def takeDelimited (mark : Char) (isRegex : Bool) : Nat → RawText → Reader (Option RawText)
  | 0, _ => return none
  | fuel + 1, out => do
    match ← take with
    | none => return none
    | some '\n' =>
      putBack (some '\n')
      return none
    | some c =>
      if c == mark then return some out.reverse
      else if c == '\\' then
        match ← take with
        | none => return none
        | some d =>
          if d == 'n' && isRegex && mark != 'n' then takeDelimited mark isRegex fuel ('\n' :: out)
          else if d == mark && !(!isRegex && d == '&') then takeDelimited mark isRegex fuel (d :: out)
          else if d == '\n' && isRegex then takeDelimited mark isRegex fuel (d :: out)
          else takeDelimited mark isRegex fuel (d :: '\\' :: out)
      else if c == '[' && isRegex then
        let rest := (← get).rest
        match bracketText (rest.length + 1) ('[' :: rest) with
        | some (text, rest) =>
          modify fun state => { state with rest := rest }
          takeDelimited mark isRegex fuel (text.reverse ++ out)
        | none =>
          modify fun state => { state with rest := rest.dropWhile (· != '\n') }
          return none
      else takeDelimited mark isRegex fuel (c :: out)

def takeText (mark : Char) (isRegex : Bool) (unterminated : String) : Reader RawText := do
  match ← takeDelimited mark isRegex ((← get).rest.length + 1) [] with
  | some text => return text
  | none => refuse unterminated

/-- Replaces the escapes for single characters; in an expression a character that would be a mark is
protected. -/
def plainEscapes (isRegex : Bool) : Nat → RawText → RawText
  | 0, text => text
  | _, [] => []
  | fuel + 1, '\\' :: c :: rest =>
    let number := fun (base count : Nat) (rest : RawText) =>
      let digits := (rest.take count).takeWhile fun d => digitValue d < base
      if digits.isEmpty then none else some (byteCharacter (readInBase base digits), digits.length)
    let put := fun (d : Char) (rest : RawText) =>
      let isMark := isRegex && ['^', '$', '*', '.', '[', ']', '\\'].contains d
      if isMark then '\\' :: d :: plainEscapes isRegex fuel rest
      else d :: plainEscapes isRegex fuel rest
    let numbered := fun (base count : Nat) =>
      match number base count rest with
      | some (d, length) => put d (rest.drop length)
      | none => '\\' :: c :: plainEscapes isRegex fuel rest
    match c with
    | 'a' => put '\x07' rest
    | 'f' => put '\x0c' rest
    | 'r' => put '\x0d' rest
    | 't' => put '\t' rest
    | 'v' => put '\x0b' rest
    | 'd' => numbered 10 3
    | 'o' => numbered 8 3
    | 'x' => numbered 16 2
    | c => '\\' :: c :: plainEscapes isRegex fuel rest
  | fuel + 1, c :: rest => c :: plainEscapes isRegex fuel rest

/-- An expression with its flags; an empty one stands for the one used last. -/
def linePattern (isExtended : Bool) (text : RawText) (ignoresCase isLinewise : Bool) :
    Reader (Option (LinePattern × Nat)) := do
  if text.isEmpty then return none
  let rules : RegexNotation := { isExtended := isExtended, ignoresCase := ignoresCase }
  match Regex.read rules (plainEscapes true (text.length + 1) text) with
  | .ok (regex, groups) => return some (⟨regex, isLinewise⟩, groups)
  | .error fault => refuse fault.description

/-! ## Addresses -/

def patternFlags : Nat → Bool × Bool → Reader (Bool × Bool)
  | 0, flags => return flags
  | fuel + 1, (ignoresCase, isLinewise) => do
    match ← takeVisible with
    | some 'I' => patternFlags fuel (true, isLinewise)
    | some 'M' => patternFlags fuel (ignoresCase, true)
    | c =>
      putBack c
      return (ignoresCase, isLinewise)

/-- The end of a range, or an address, that begins with a character. -/
def rangeEnd (isExtended : Bool) (first : Option Char) : Reader (Option RangeEnd) := do
  match first with
  | none => return none
  | some c =>
    if c == '/' || c == '\\' then
      let mark ← if c == '/' then pure '/' else do pure ((← take).getD '/')
      let text ← takeText mark true "unterminated address regex"
      let (ignoresCase, isLinewise) ← patternFlags 100 (false, false)
      let pattern ← linePattern isExtended text ignoresCase isLinewise
      return some (.address (.pattern (pattern.map (·.1))))
    else if c.isDigit then
      let number ← takeNumber c
      match ← takeVisible with
      | some '~' =>
        let step ←
          match ← takeVisible with
          | some d => if d.isDigit then takeNumber d else do
              putBack (some d)
              pure 0
          | none => pure 0
        return some (.address (.row number step))
      | d =>
        putBack d
        return some (.address (.line number))
    else if c == '$' then return some (.address .last)
    else if c == '+' || c == '~' then
      match ← takeVisible with
      | some d =>
        if d.isDigit then
          let number ← takeNumber d
          return some (if c == '+' then .after number else .multiple number)
        else
          putBack (some d)
          return some (.after 0)
      | none => return some (.after 0)
    else return none

/-- The selector that begins with a character, and the character of the command after it. -/
def selector (isExtended : Bool) (c : Option Char) : Reader (Selector × Option Char) := do
  let (selector, c) ←
    match ← rangeEnd isExtended c with
    | none => pure ({}, c)
    | some (.address first) => do
      match ← takeVisible with
      | some ',' =>
        match ← rangeEnd isExtended (← takeVisible) with
        | none => refuse "unexpected \x60,'"
        | some last =>
          let mayBeZero := match last with
            | .address (.pattern _) => true
            | _ => false
          match first with
          | .line 0 => if !mayBeZero then refuse "invalid usage of line address 0"
          | _ => pure ()
          pure ({ first := some first, last := some last }, ← takeVisible)
      | c =>
        match first with
        | .line 0 => refuse "invalid usage of line address 0"
        | _ => pure ()
        pure ({ first := some first }, c)
    | some _ => refuse "invalid usage of +N or ~N as first address"
  if c != some '!' then return (selector, c)
  let c ← takeVisible
  if c == some '!' then refuse "multiple \x60!'s"
  return ({ selector with isNegated := true }, c)

/-! ## Commands -/

def endCommand : Reader Unit := do
  match ← takeVisible with
  | none | some '\n' | some ';' => return
  | some c =>
    if c == '\x7d' || c == '#' then putBack (some c)
    else refuse "extra characters after command"

def label : Reader RawText := do
  dropWhile isBlankByte
  takeSpan fun c => !isSpaceByte c && c != ';'

def fileName : Reader RawText := do
  dropWhile isBlankByte
  let name ← takeSpan (· != '\n')
  let _ ← take
  if name.isEmpty then refuse "missing filename in r/R/w/W commands"
  return name

/-- The text of a command up to the first line feed without a backslash in front. -/
def textLines : Nat → RawText → Reader RawText
  | 0, out => return out.reverse
  | fuel + 1, out => do
    match ← take with
    | none | some '\n' => return ('\n' :: out).reverse
    | some '\\' =>
      match ← take with
      | none => return ('\n' :: out).reverse
      | some '\n' => textLines fuel ('\n' :: out)
      | some c => textLines fuel (c :: '\\' :: out)
    | some c => textLines fuel (c :: out)

/-- Takes away the backslashes of a text, apart from those of escapes for single characters. -/
def plainText (text : RawText) : RawText :=
  let rec go : RawText → RawText
    | '\\' :: 'n' :: rest => '\n' :: go rest
    | '\\' :: c :: rest => c :: go rest
    | c :: rest => c :: go rest
    | [] => []
  go (plainEscapes false (text.length + 1) text)

def commandText : Reader RawText := do
  let expected := "expected \\ after \x60a', \x60c' or \x60i'"
  match ← takeVisible with
  | none => refuse expected
  | some '\\' =>
    let blanks ← takeSpan isBlankByte
    match ← take with
    | some '\n' => pure ()
    | none => pure ()
    | some c =>
      putBack (some c)
      modify fun state => { state with rest := blanks ++ state.rest }
  | some c => putBack (some c)
  let size := (← get).rest.length
  if size = 0 then return []
  return plainText (← textLines (size + 1) [])

/-- The parts of a replacement. -/
def replacementParts : Nat → RawText → RawText → List ReplacementPart
  | 0, _, _ => []
  | _, out, [] => if out.isEmpty then [] else [.text out.reverse]
  | fuel + 1, out, c :: rest =>
    let finish := fun (part : ReplacementPart) (rest : RawText) =>
      let parts := part :: replacementParts fuel [] rest
      if out.isEmpty then parts else .text out.reverse :: parts
    match c, rest with
    | '&', rest => finish (.group 0) rest
    | '\\', d :: rest =>
      if d.isDigit then finish (.group (digitValue d)) rest
      else
        match d with
        | 'L' => finish (.allCase .lower) rest
        | 'U' => finish (.allCase .upper) rest
        | 'E' => finish (.allCase .unchanged) rest
        | 'l' => finish (.nextCase .lower) rest
        | 'u' => finish (.nextCase .upper) rest
        | 'n' => replacementParts fuel ('\n' :: out) rest
        | d => replacementParts fuel (d :: out) rest
    | c, rest => replacementParts fuel (c :: out) rest

/-- The flags of a substitution. -/
def substitutionFlags : Nat → Bool → Bool → Bool → Substitution →
    Reader (Substitution × Bool × Bool)
  | 0, _, ignoresCase, isLinewise, substitution => return (substitution, ignoresCase, isLinewise)
  | fuel + 1, hasNumber, ignoresCase, isLinewise, substitution => do
    let goOn := substitutionFlags fuel
    let done := return (substitution, ignoresCase, isLinewise)
    match ← take with
    | none | some '\n' | some ';' => done
    | some ' ' => goOn hasNumber ignoresCase isLinewise substitution
    | some 'i' | some 'I' => goOn hasNumber true isLinewise substitution
    | some 'm' | some 'M' => goOn hasNumber ignoresCase true substitution
    | some 'p' =>
      if substitution.prints then refuse "multiple \x60p' options to \x60s' command"
      goOn hasNumber ignoresCase isLinewise { substitution with prints := true }
    | some 'g' =>
      if substitution.isGlobal then refuse "multiple \x60g' options to \x60s' command"
      goOn hasNumber ignoresCase isLinewise { substitution with isGlobal := true }
    | some 'w' =>
      let name ← fileName
      return ({ substitution with output := some name }, ignoresCase, isLinewise)
    | some c =>
      if c == '\x7d' || c == '#' then
        putBack (some c)
        done
      else if c.isDigit then
        if hasNumber then refuse "multiple number options to \x60s' command"
        let number ← takeNumber c
        if number = 0 then refuse "number option to \x60s' command may not be zero"
        goOn true ignoresCase isLinewise { substitution with occurrence := number }
      else refuse "unknown option to \x60s'"

def substitution (isExtended : Bool) : Reader Command := do
  let unterminated := "unterminated \x60s' command"
  match ← take with
  | none => refuse unterminated
  | some mark =>
    let pattern ← takeText mark true unterminated
    let text ← takeText mark false unterminated
    let parts := replacementParts (text.length + 1) [] (plainEscapes false (text.length + 1) text)
    let (substitution, ignoresCase, isLinewise) ←
      substitutionFlags ((← get).rest.length + 1) false false false
        { pattern := none, replacement := parts }
    let pattern ← linePattern isExtended pattern ignoresCase isLinewise
    let highest := parts.foldl
      (fun highest part => match part with
        | .group number => max highest number
        | _ => highest)
      0
    match pattern with
    | some (pattern, groups) =>
      if groups < highest then
        refuse ("invalid reference \\" ++ toString highest ++ " on \x60s' command's RHS")
      return .substitute { substitution with pattern := some pattern }
    | none => return .substitute substitution

/-- The characters of a text for transliteration. -/
def tableCharacters : RawText → RawText
  | '\\' :: '\\' :: rest => '\\' :: tableCharacters rest
  | '\\' :: 'n' :: rest => '\n' :: tableCharacters rest
  | c :: rest => c :: tableCharacters rest
  | [] => []

def transliteration : Reader Command := do
  let unterminated := "unterminated \x60y' command"
  match ← take with
  | none => refuse unterminated
  | some mark =>
    let source ← takeText mark false unterminated
    let target ← takeText mark false unterminated
    let plain := fun (text : RawText) => tableCharacters (plainEscapes false (text.length + 1) text)
    let source := plain source
    let target := plain target
    if source.length != target.length then
      refuse "strings for \x60y' command are different lengths"
    endCommand
    return .transliterate (source.zip target)

def quitStatus (hasRange : Bool) : Reader Nat := do
  if hasRange then refuse "command only uses one address"
  match ← takeVisible with
  | none => return 0
  | some c =>
    if c.isDigit then takeNumber c
    else
      putBack (some c)
      return 0

/-- The command that a letter names. -/
def plainCommand? : Char → Option Command
  | '=' => some .printNumber
  | 'd' => some .delete
  | 'D' => some .deleteFirst
  | 'F' => some .printName
  | 'g' => some .copyKept
  | 'G' => some .appendKept
  | 'h' => some .keep
  | 'H' => some .keepMore
  | 'n' => some .next
  | 'N' => some .appendNext
  | 'p' => some .print
  | 'P' => some .printFirst
  | 'x' => some .exchange
  | 'z' => some .empty
  | _ => none

def add (selector : Selector) (command : Command) : Reader Unit :=
  modify fun state =>
    { state with
      script :=
        { state.script with instructions := state.script.instructions.push ⟨selector, command⟩ } }

def instructionCount : Reader Nat := do
  return (← get).script.instructions.size

/-- Reads the command that begins with a letter. -/
def command (isExtended : Bool) (selector : Selector) (c : Char) : Reader Unit := do
  let hasRange := selector.last.isSome
  match c with
  | '\x7b' =>
    let place ← instructionCount
    add selector (.block 0)
    modify fun state => { state with blocks := place :: state.blocks }
  | '\x7d' =>
    match (← get).blocks with
    | [] => refuse "unexpected \x60\x7d'"
    | place :: blocks =>
      if selector.first.isSome then refuse "\x7d doesn't want any addresses"
      endCommand
      let after ← instructionCount
      modify fun state =>
        { state with
          blocks := blocks
          script :=
            { state.script with
              instructions := state.script.instructions.modify place fun instruction =>
                { instruction with command := .block after } } }
  | '#' =>
    if selector.first.isSome then refuse "comments don't accept any addresses"
    let _ ← takeSpan (· != '\n')
  | ':' =>
    if selector.first.isSome then refuse ": doesn't want any addresses"
    let name ← label
    if name.isEmpty then refuse "\":\" lacks a label"
    let place ← instructionCount
    modify fun state =>
      { state with script := { state.script with labels := state.script.labels ++ [(name, place)] } }
  | 'b' | 't' | 'T' =>
    let condition : JumpCondition :=
      if c == 'b' then .always else if c == 't' then .ifReplaced else .unlessReplaced
    dropWhile isBlankByte
    let name ← takeSpan fun c => !isSpaceByte c && c != ';' && c != '\x7d'
    add selector (.jump condition name)
    endCommand
  | 'a' => add selector (.append (← commandText))
  | 'i' => add selector (.insert (← commandText))
  | 'c' => add selector (.change (← commandText))
  | 'q' | 'Q' =>
    let status ← quitStatus hasRange
    add selector (.quit status (c == 'q'))
    endCommand
  | 'l' | 'L' =>
    match ← takeVisible with
    | some d =>
      if d.isDigit then add selector (.list (some (← takeNumber d)))
      else
        putBack (some d)
        add selector (.list none)
    | none => add selector (.list none)
    endCommand
  | 'r' => add selector (.readFile (← fileName))
  | 'R' => add selector (.readLine (← fileName))
  | 'w' => add selector (.writeFile (← fileName))
  | 'W' => add selector (.writeFirst (← fileName))
  | 's' => add selector (← substitution isExtended)
  | 'y' => add selector (← transliteration)
  | 'v' =>
    let _ ← label
    endCommand
  | c =>
    match plainCommand? c with
    | some command =>
      add selector command
      endCommand
    | none => refuse ("unknown command: \x60" ++ String.ofList [c] ++ "'")

/-- Reads all commands of an expression. -/
def commands (isExtended isFirst : Bool) : Nat → Reader Unit
  | 0 => return
  | fuel + 1 => do
    dropWhile fun c => isSpaceByte c || c == ';'
    match ← take with
    | none => return
    | some '#' =>
      let line ← takeSpan (· != '\n')
      let isAtStart := (← get).script.instructions.isEmpty && isFirst
      if line == ['n'] && isAtStart then
        modify fun state => { state with script := { state.script with isSilent := true } }
      commands isExtended false fuel
    | some c =>
      let (selector, c) ← selector isExtended (some c)
      match c with
      | none => refuse "missing command"
      | some c => command isExtended selector c
      commands isExtended false fuel

end Reader

/-- Reads expressions into a script; a fault is told as a message. -/
def readScript (isExtended : Bool) : List (RawText × RawText) → Nat → ReaderState →
    Except RawText ReaderState
  | [], _, state => .ok state
  | (origin, text) :: rest, number, state =>
    let isFirst := number == 1
    match (Reader.commands isExtended isFirst (text.length + 1)).run { state with rest := text } with
    | .ok ((), state) => readScript isExtended rest (number + 1) state
    | .error fault =>
      let read := match fault.left with
        | some left => text.length - left
        | none => 0
      .error (origin ++ raw ", char " ++ naturalText read ++ raw ": " ++ fault.message)

/-- The first label that a script jumps to and does not have. -/
def missingLabel? (script : Script) : Option RawText :=
  script.instructions.toList.findSome? fun instruction =>
    match instruction.command with
    | .jump _ name =>
      if name.isEmpty || (script.labels.lookup name).isSome then none else some name
    | _ => none

end KeyJoin.Tools.Editing
