import KeyJoin.Shell.Input

/-!
# Reading commands

Words are read character by character in one of four ways: outside quotes,
within single or double quotes, or within an arithmetic expression.  A variable
in braces may open a way of its own for what stands after its operator, so the
ways form a stack of layers.  Commands are read token by token.  All readers
take an amount of fuel that bounds how deep constructs nest and how long they
are.
-/

namespace KeyJoin.Shell

open Reader

inductive Quoting
  | outside
  | single
  | double
  | arithmetic
  deriving DecidableEq, Repr

/-- The way in which characters are being read.  `braces` counts the open variables, and
`doubleBraces` those that were opened within double quotes. -/
structure Layer where
  quoting : Quoting
  isDouble : Bool := false
  innerDouble : Bool := false
  wasPushed : Bool := false
  braces : Nat := 0
  doubleBraces : Nat := 0
  brackets : Nat := 0

/-- What has been read of a word, backwards.  A here-document has an end mark. -/
structure WordScan where
  layer : Layer
  outer : List Layer := []
  out : List WordItem := []
  wasQuoted : Bool := false
  document : Option PendingDocument := none

namespace WordScan

def put (scan : WordScan) (item : WordItem) : WordScan :=
  { scan with out := item :: scan.out }

def push (scan : WordScan) (layer : Layer) : WordScan :=
  { scan with layer := layer, outer := scan.layer :: scan.outer }

def pop (scan : WordScan) : WordScan :=
  match scan.outer with
  | layer :: outer => { scan with layer := layer, outer := outer }
  | [] => scan

def mark (scan : WordScan) : WordScan :=
  if scan.document.isSome then scan else scan.put .quoteMark

/-- Toggles the double quotes within an open variable. -/
def toggleInner (scan : WordScan) : WordScan :=
  let layer := scan.layer
  (if layer.braces = 0 then scan
    else { scan with layer := { layer with innerDouble := !layer.innerDouble } }).mark

def inDocument (scan : WordScan) : Bool :=
  scan.document.isSome && scan.layer.braces = 0

end WordScan

/-- Characters that patterns and tildes give a meaning, so that quotes have to protect them. -/
def isProtected (c : Char) : Bool :=
  ['!', '*', '?', '[', '=', '~', ':', '/', '-', ']'].contains c

/-- Characters at which an unquoted word ends. -/
def endsWord (c : Char) : Bool :=
  ['<', '>', '(', ')', ';', '&', '|', ' ', '\t'].contains c

inductive CharacterClass
  | plain
  | protectedChar
  | newline
  | backslash
  | openSingle
  | openDouble
  | closeQuote
  | dollar
  | closeBrace
  | openBracket
  | closeBracket
  | backquote
  | separator
  deriving DecidableEq

def classify (quoting : Quoting) (c : Char) : CharacterClass :=
  match quoting, c with
  | _, '\n' => .newline
  | .single, '\'' => .closeQuote
  | .single, c => if c == '\\' || isProtected c then .protectedChar else .plain
  | _, '\\' => .backslash
  | _, '\x60' => .backquote
  | _, '$' => .dollar
  | _, '\x7d' => .closeBrace
  | .double, '"' => .closeQuote
  | .double, c => if isProtected c then .protectedChar else .plain
  | .outside, '\'' => .openSingle
  | .outside, '"' => .openDouble
  | .outside, c => if endsWord c then .separator else .plain
  | .arithmetic, '(' => .openBracket
  | .arithmetic, ')' => .closeBracket
  | .arithmetic, _ => .plain

def isSpecialParameter (c : Char) : Bool :=
  ['@', '*', '#', '?', '-', '$', '!'].contains c

def startsParameter (c : Char) : Bool :=
  isNameStart c || c.isDigit || isSpecialParameter c

/-- Whether a backslash before `c` stands for itself. -/
def keepsBackslash (scan : WordScan) (c : Char) : Bool :=
  scan.layer.isDouble && c != '\\' && c != '\x60' && c != '$' &&
    (c != '"' || scan.inDocument) && (c != '\x7d' || scan.layer.braces = 0)

/-- Takes the character after a backslash. -/
def scanBackslash (scan : WordScan) : Reader WordScan := do
  match ← nextChar with
  | none => return scan.put (.quoted '\\')
  | some c =>
    let scan := if keepsBackslash scan c then scan.put (.quoted '\\') else scan
    return { scan.put (.quoted c) with wasQuoted := true }

def scanCloseQuote (scan : WordScan) (c : Char) : WordScan :=
  if scan.inDocument then scan.put (.plain c)
  else
    let layer := scan.layer
    let layer :=
      if layer.doubleBraces = 0 then { layer with quoting := .outside, isDouble := false } else layer
    let scan := { scan with layer := layer, wasQuoted := true }
    if c == '"' then scan.toggleInner else scan.mark

def scanCloseBrace (scan : WordScan) : WordScan :=
  let layer := scan.layer
  if layer.innerDouble || layer.braces = 0 then scan.put (.plain '\x7d')
  else
    let braces := layer.braces - 1
    let scan := scan.put .closeVariable
    if braces = 0 && layer.wasPushed then scan.pop
    else { scan with layer := { layer with braces := braces, doubleBraces := layer.doubleBraces - 1 } }

def scanCloseBracket (fuel : Nat) (scan : WordScan) : Reader WordScan := do
  if 0 < scan.layer.brackets then
    return { scan.put (.plain ')') with
             layer := { scan.layer with brackets := scan.layer.brackets - 1 } }
  match ← nextJoined fuel with
  | some ')' => return (scan.put .closeArithmetic).pop
  | c =>
    pushChar c
    return scan.put (.plain ')')

/-- The operation that the characters after a variable's name in braces stand for, whether it
treats an empty variable as unset, and whether what follows is read as outside quotes. -/
def readOperation (fuel : Nat) (c : Option Char) : Reader (VariableOperation × Bool × Bool) := do
  let ofMark := fun (c : Option Char) =>
    match c with
    | some '\x7d' => VariableOperation.value
    | some '-' => .orDefault
    | some '+' => .ifPresent
    | some '?' => .orFail
    | some '=' => .orAssign
    | _ => .unknown
  match c with
  | some ':' => return (ofMark (← nextJoined fuel), true, false)
  | some '%' | some '#' =>
    let next ← nextJoined fuel
    let longest := next == c
    if !longest then pushChar next
    return (if c == some '#' then .withoutStart longest else .withoutEnd longest, false, true)
  | c => return (ofMark c, false, false)

/-- The name of a variable that begins with `c`, and the character after it. -/
def readParameterName (fuel : Nat) (inBraces : Bool) (c : Char) :
    Reader (RawText × Option Char) := do
  if isNameStart c then Reader.takeWhile isNameCharacter fuel [] (some c)
  else if inBraces then Reader.takeWhile Char.isDigit fuel [] (some c)
  else return ([c], ← nextJoined fuel)

/-- Begins a variable whose name and operation are known. -/
def openVariable (scan : WordScan) (name : RawText) (operation : VariableOperation)
    (orEmpty readsOutside : Bool) : WordScan :=
  let isPlain := operation == .value && !orEmpty
  let layer := scan.layer
  let quoting :=
    if readsOutside then Quoting.outside
    else if layer.quoting == .arithmetic then .double
    else layer.quoting
  let scan :=
    if (quoting != layer.quoting || layer.innerDouble) && !isPlain then
      scan.push { quoting := quoting, isDouble := quoting != .outside, wasPushed := true }
    else scan
  let scan := scan.put (.openVariable name operation orEmpty)
  if isPlain then scan.put .closeVariable
  else
    let layer := scan.layer
    { scan with
      layer :=
        { layer with
          braces := layer.braces + 1
          doubleBraces := if layer.isDouble then layer.doubleBraces + 1 else layer.doubleBraces } }

/-- Takes the rest of a variable in braces whose name has been read. -/
def scanOperation (fuel : Nat) (scan : WordScan) (name : RawText) (c : Option Char) :
    Reader WordScan := do
  let (operation, orEmpty, readsOutside) ← readOperation fuel c
  return openVariable scan name operation orEmpty readsOutside

/-- Begins a variable that is refused when it is expanded; `c` is read again. -/
def scanUnknown (scan : WordScan) (name : RawText) (c : Option Char) : Reader WordScan := do
  pushChar c
  return openVariable scan name .unknown false false

/-- Takes a variable that asks for a length, after the mark for it. -/
def scanLength (fuel : Nat) (scan : WordScan) (c : Option Char) : Reader WordScan := do
  let finish := fun (name : RawText) (after : Option Char) => do
    pushChar after
    return openVariable scan name (if after == some '\x7d' then .length else .unknown) false false
  match c with
  | none => scanOperation fuel scan ['#'] none
  | some c =>
    if isNameStart c || c.isDigit then
      let (name, after) ← readParameterName fuel true c
      finish name after
    else
      let next ← nextJoined fuel
      if c == '\x7d' || next != some '\x7d' then
        pushChar next
        scanOperation fuel scan ['#'] (some c)
      else if isSpecialParameter c then finish [c] next
      else scanUnknown scan [] next

/-- Takes a variable in braces after the opening brace. -/
def scanBraces (fuel : Nat) (scan : WordScan) : Reader WordScan := do
  match ← nextJoined fuel with
  | none => scanUnknown scan [] none
  | some c =>
    if isNameStart c || c.isDigit then
      let (name, after) ← readParameterName fuel true c
      scanOperation fuel scan name after
    else if c == '\x7d' then scanUnknown scan [] (some c)
    else
      let after ← nextJoined fuel
      if c == '#' then scanLength fuel scan after
      else if isSpecialParameter c then scanOperation fuel scan [c] after
      else scanUnknown scan [] after

/-- Takes the text up to the closing backquote, without the backslashes that protect marks. -/
def takeBackquoted (inQuotes : Bool) : Nat → RawText → Reader RawText
  | 0, _ => fail .tooDeep
  | fuel + 1, text => do
    match ← nextJoined fuel with
    | some '\x60' => return text.reverse
    | none => fail .unterminatedBackquote
    | some '\\' =>
      match ← nextChar with
      | none => fail .unterminatedBackquote
      | some c =>
        if c == '\n' then countLine
        if c == '\\' || c == '\x60' || c == '$' || (inQuotes && c == '"') then
          takeBackquoted inQuotes fuel (c :: text)
        else takeBackquoted inQuotes fuel (c :: '\\' :: text)
    | some c =>
      if c == '\n' then countLine
      takeBackquoted inQuotes fuel (c :: text)

/-- Takes tabs if they are dropped, and gives the first other character. -/
def skipTabs : Nat → Option Char → Reader (Option Char)
  | 0, c => return c
  | fuel + 1, c => do
    if c == some '\t' then skipTabs fuel (← nextChar) else return c

/-- Compares what comes next with an end mark, and gives what has been taken for it, backwards, if
the line is another one. -/
def matchEndMark : RawText → RawText → Option Char → Reader (Option (RawText × Option Char))
  | [], taken, c => return if c == some '\n' || c.isNone then none else some (taken, c)
  | d :: mark, taken, c => do
    if c == some d then matchEndMark mark (d :: taken) (← nextChar) else return some (taken, c)

/-- At the start of a line of a here-document: the first character of the line, or none if the
document ends here. -/
def startLine (fuel : Nat) (scan : WordScan) (c : Option Char) : Reader (Option Char) := do
  match scan.document with
  | none => return c
  | some document =>
    let c ← if document.dropsTabs then skipTabs fuel c else pure c
    match ← matchEndMark document.endMark [] c with
    | none =>
      countLine
      return none
    | some (taken, c) =>
      pushChar c
      pushText taken.reverse
      nextChar

def redirectionMark (fuel : Nat) (c : Char) : Reader (Nat × RedirectionKind × Bool) := do
  let next ← nextJoined fuel
  if c == '>' then
    match next with
    | some '>' => return (1, .appended, false)
    | some '|' => return (1, .clobbering, false)
    | some '&' => return (1, .copiedOutput, false)
    | next =>
      pushChar next
      return (1, .output, false)
  else
    match next with
    | some '<' =>
      let next ← nextJoined fuel
      if next != some '-' then pushChar next
      return (0, .document 0, next == some '-')
    | some '&' => return (0, .copiedInput, false)
    | some '>' => return (0, .inputOutput, false)
    | next =>
      pushChar next
      return (0, .input, false)

/-- Ends a word, or takes a redirection that follows its descriptor number at once. -/
def finishWord (fuel : Nat) (scan : WordScan) (c : Option Char) : Reader Token := do
  let isEnded := scan.document.isSome
  if scan.layer.quoting == .arithmetic then fail .missingBrackets
  if scan.layer.quoting != .outside && !isEnded then fail .unterminatedQuote
  if scan.layer.braces != 0 then fail .missingBrace
  let word := scan.out.reverse
  let keep : Reader Token := do
    if !isEnded then pushChar c
    modify fun input => { input with word := word, wordIsQuoted := scan.wasQuoted }
    setLast .word
  match c with
  | some c' =>
    if !isEnded && (c' == '<' || c' == '>') && !scan.wasQuoted then
      let number : Option (Option Nat) :=
        match word with
        | [] => some none
        | [.plain d] => if d.isDigit then some (some (digitValue d)) else none
        | _ => none
      match number with
      | none => keep
      | some number =>
        let (usual, kind, dropsTabs) ← redirectionMark fuel c'
        modify fun input => { input with redirection := (number.getD usual, kind, dropsTabs) }
        setLast .redirection
    else keep
  | none => keep

/-- Notes a here-document whose body begins after this line, and gives its number. -/
def addDocument (endMark : RawText) (isQuoted dropsTabs : Bool) : Reader Nat := do
  let input ← get
  let id := input.nextDocument
  set { input with
        nextDocument := id + 1
        pending := input.pending ++ [PendingDocument.mk id endMark isQuoted dropsTabs] }
  return id

mutual

/-- Reads the characters of a word from `c` on. -/
def scanWord : Nat → WordScan → Option Char → Reader (WordScan × Option Char)
  | 0, _, _ => fail .tooDeep
  | _, scan, none => return (scan, none)
  | fuel + 1, scan, some c => do
    let layer := scan.layer
    let goOn := fun (scan : WordScan) => do
      let next ← if scan.layer.quoting == .single then nextChar else nextJoined fuel
      scanWord fuel scan next
    match classify layer.quoting c with
    | .newline =>
      if layer.quoting == .outside && layer.braces = 0 then return (scan, some c)
      countLine
      let next ← if layer.quoting == .single then nextChar else nextJoined fuel
      scanWord fuel (scan.put (.plain c)) (← startLine fuel scan next)
    | .plain => goOn (scan.put (.plain c))
    | .protectedChar =>
      goOn (scan.put (if scan.document.isNone || layer.isDouble then .quoted c else .plain c))
    | .backslash => goOn (← scanBackslash scan)
    | .openSingle => goOn { scan with layer := { layer with quoting := .single } }.mark
    | .openDouble =>
      goOn { scan with layer := { layer with quoting := .double, isDouble := true } }.toggleInner
    | .closeQuote => goOn (scanCloseQuote scan c)
    | .dollar => goOn (← scanDollar fuel scan)
    | .closeBrace => goOn (scanCloseBrace scan)
    | .openBracket =>
      goOn { scan.put (.plain c) with layer := { layer with brackets := layer.brackets + 1 } }
    | .closeBracket => goOn (← scanCloseBracket fuel scan)
    | .backquote =>
      if (← get).check.isEndMark then goOn (scan.put (.plain c))
      else goOn (← scanBackquote fuel scan)
    | .separator =>
      if layer.braces = 0 then return (scan, some c) else goOn (scan.put (.plain c))

/-- Reads what follows a dollar sign. -/
def scanDollar : Nat → WordScan → Reader WordScan
  | 0, _ => fail .tooDeep
  | fuel + 1, scan => do
    let itself := fun (c : Option Char) => do
      pushChar c
      return scan.put (.plain '$')
    match ← nextJoined fuel with
    | none => itself none
    | some c =>
      if (← get).check.isEndMark then itself (some c)
      else if c == '(' then
        match ← nextJoined fuel with
        | some '(' =>
          return (scan.put .openArithmetic).push { quoting := .arithmetic, isDouble := true }
        | next =>
          pushChar next
          scanSubstitution fuel scan
      else if c == '\x7b' then scanBraces fuel scan
      else if startsParameter c then
        let (name, after) ← readParameterName fuel false c
        pushChar after
        return openVariable scan name .value false false
      else itself (some c)

/-- Reads a substituted command after its opening bracket. -/
def scanSubstitution : Nat → WordScan → Reader WordScan
  | 0, _ => fail .tooDeep
  | fuel + 1, scan => do
    let pending := (← get).pending
    modify fun input => { input with pending := [] }
    let body ← readList fuel false true
    if (← readToken fuel) != .closeBracket then failHere (some .closeBracket)
    readDocuments fuel
    modify fun input => { input with pending := pending }
    return scan.put (.command body)

/-- Reads a command in backquotes after the first of them. -/
def scanBackquote : Nat → WordScan → Reader WordScan
  | 0, _ => fail .tooDeep
  | fuel + 1, scan => do
    let text ← takeBackquoted scan.layer.isDouble fuel []
    let outer ← get
    set { outer with strips := [{ rest := text }], line := 1, pushedBack := false, pending := [] }
    let body ← readList fuel false true
    modify fun inner =>
      { inner with
        strips := outer.strips, line := outer.line, pushedBack := false, pending := outer.pending
        check := outer.check }
    return scan.put (.command body)

/-- Reads the bodies of the here-documents that were announced. -/
def readDocuments : Nat → Reader Unit
  | 0 => fail .tooDeep
  | fuel + 1 => do
    match (← get).pending with
    | [] => return
    | document :: pending =>
      modify fun input => { input with pending := pending }
      let layer : Layer :=
        if document.isQuoted then { quoting := .single }
        else { quoting := .double, isDouble := true }
      let scan : WordScan := { layer := layer, document := some document }
      let first ← if document.isQuoted then nextChar else nextJoined fuel
      let saved ← get
      let (scan, _) ← scanWord fuel scan (← startLine fuel scan first)
      if scan.layer.quoting == .arithmetic then fail .missingBrackets
      if scan.layer.braces != 0 then fail .missingBrace
      modify fun input =>
        { input with
          word := saved.word, wordIsQuoted := saved.wordIsQuoted, last := saved.last
          documents := (document.id, scan.out.reverse) :: input.documents }
      readDocuments fuel

/-- Reads a token without looking at keywords and aliases. -/
def readBareToken : Nat → Reader Token
  | 0 => fail .tooDeep
  | fuel + 1 => do
    let input ← get
    if input.pushedBack then
      set { input with pushedBack := false }
      return input.last
    let orDouble := fun (c : Char) (double single : Token) => do
      let next ← nextJoined fuel
      if next == some c then setLast double
      else
        pushChar next
        setLast single
    match ← nextJoined fuel with
    | none => setLast .endOfFile
    | some c =>
      match c with
      | ' ' | '\t' => readBareToken fuel
      | '#' =>
        skipComment fuel
        readBareToken fuel
      | '\n' =>
        countLine
        setLast .newline
      | '&' => orDouble '&' .and .background
      | '|' => orDouble '|' .or .pipe
      | ';' => orDouble ';' .endOfBranch .semicolon
      | '(' => setLast .openBracket
      | ')' => setLast .closeBracket
      | c =>
        let (scan, after) ← scanWord fuel { layer := { quoting := .outside } } (some c)
        finishWord fuel scan after

/-- Reads a token past line feeds, if they are to be skipped. -/
def readPastNewlines : Nat → Bool → Reader Token
  | 0, _ => fail .tooDeep
  | fuel + 1, skips => do
    let token ← readBareToken fuel
    if skips && token == .newline then
      readDocuments fuel
      readPastNewlines fuel skips
    else return token

def readChecked : Nat → TokenCheck → Reader Token
  | 0, _ => fail .tooDeep
  | fuel + 1, check => do
    let token ← readPastNewlines fuel check.skipsNewlines
    let later := (← get).check
    let check : TokenCheck :=
      { skipsNewlines := check.skipsNewlines || later.skipsNewlines
        keywords := check.keywords || later.keywords
        aliases := check.aliases || later.aliases }
    setCheck {}
    let input ← get
    match token, input.wordIsQuoted, plainText? input.word with
    | .word, false, some text =>
      match if check.keywords then keyword? text else none with
      | some word => setLast (.keyword word)
      | none =>
        if check.aliases then
          match ← alias? text with
          | some value =>
            pushAlias text value
            readChecked fuel check
          | none => return token
        else return token
    | _, _, _ => return token

def readToken : Nat → Reader Token
  | 0 => fail .tooDeep
  | fuel + 1 => do readChecked fuel (← get).check

def expectToken : Nat → Token → Reader Unit
  | 0, _ => fail .tooDeep
  | fuel + 1, token => do
    if (← readToken fuel) != token then failHere (some token)

/-- Reads commands up to a line feed at the top level, or up to a token that ends the list; only
a list that `mayBeEmpty` may have no commands. -/
def readList : Nat → Bool → Bool → Reader (Option Command)
  | 0, _, _ => fail .tooDeep
  | fuel + 1, isTop, mayBeEmpty => readListRest fuel isTop mayBeEmpty none

def readListRest : Nat → Bool → Bool → Option Command → Reader (Option Command)
  | 0, _, _, _ => fail .tooDeep
  | fuel + 1, isTop, mayEnd, before => do
    setCheck { skipsNewlines := !isTop, keywords := true, aliases := true }
    let token ← readToken fuel
    let finishAtEnd : Reader (Option Command) := do
      readDocuments fuel
      let _ ← setLast .endOfFile
      pushToken
      return before
    match token with
    | .newline =>
      readDocuments fuel
      return before
    | .endOfFile => finishAtEnd
    | token =>
      pushToken
      if !isTop && mayEnd && token.endsList then return before
      let line := (← get).line
      let command ← readChain fuel
      let token ← readToken fuel
      let command :=
        if token == .background then
          match command with
          | .pipeline _ commands => .pipeline true commands
          | .redirected line body redirections => .background line body redirections
          | command => .background line command []
        else command
      let all := some (match before with | none => command | some first => .sequence first command)
      match token with
      | .endOfFile =>
        readDocuments fuel
        let _ ← setLast .endOfFile
        pushToken
        return all
      | .newline =>
        pushToken
        readListRest fuel isTop true all
      | .background | .semicolon => readListRest fuel isTop true all
      | _ =>
        if isTop then failHere none
        pushToken
        return all

def readChain : Nat → Reader Command
  | 0 => fail .tooDeep
  | fuel + 1 => do readChainRest fuel (← readPipeline fuel)

def readChainRest : Nat → Command → Reader Command
  | 0, _ => fail .tooDeep
  | fuel + 1, first => do
    let next : Reader Command := do
      setCheck { skipsNewlines := true, keywords := true, aliases := true }
      readPipeline fuel
    match ← readToken fuel with
    | .and => readChainRest fuel (.conjunction first (← next))
    | .or => readChainRest fuel (.disjunction first (← next))
    | _ =>
      pushToken
      return first

def readPipeline : Nat → Reader Command
  | 0 => fail .tooDeep
  | fuel + 1 => do
    let isNegated := (← readToken fuel) == .keyword .notMark
    if isNegated then setCheck { keywords := true, aliases := true } else pushToken
    let first ← readCommand fuel
    let rest ← readPipelineRest fuel
    let command := if rest.isEmpty then first else .pipeline false (first :: rest)
    return if isNegated then .negation command else command

def readPipelineRest : Nat → Reader (List Command)
  | 0 => fail .tooDeep
  | fuel + 1 => do
    if (← readToken fuel) == .pipe then
      setCheck { skipsNewlines := true, keywords := true, aliases := true }
      let command ← readCommand fuel
      return command :: (← readPipelineRest fuel)
    else
      pushToken
      return []

/-- Reads a list that may not be empty; at the end of the script it is, and the token that must
follow it is missing. -/
def readBody : Nat → Reader Command
  | 0 => fail .tooDeep
  | fuel + 1 => return (← readList fuel false false).getD (.pipeline false [])

def readCommand : Nat → Reader Command
  | 0 => fail .tooDeep
  | fuel + 1 => do
    let line := (← get).line
    match ← readToken fuel with
    | .keyword .ifWord =>
      let body ← readConditional fuel
      expectToken fuel (.keyword .fi)
      readAfter fuel line body
    | .keyword .whileWord => readAfter fuel line (← readLoop fuel true)
    | .keyword .untilWord => readAfter fuel line (← readLoop fuel false)
    | .keyword .forWord => readAfter fuel line (← readIteration fuel line)
    | .keyword .caseWord => readAfter fuel line (← readSelection fuel line)
    | .openBracket =>
      let body ← readBody fuel
      expectToken fuel .closeBracket
      readAfter fuel line (.subshell line body [])
    | .keyword .openBrace =>
      let body ← readBody fuel
      expectToken fuel (.keyword .closeBrace)
      readAfter fuel line body
    | .word | .redirection =>
      pushToken
      let line := (← get).line
      readSimple fuel line true [] [] []
    | _ => failHere none

/-- Reads the redirections after a compound command. -/
def readAfter : Nat → Nat → Command → Reader Command
  | 0, _, _ => fail .tooDeep
  | fuel + 1, line, body => do
    setCheck { keywords := true, aliases := true }
    let redirections ← readRedirections fuel
    match body, redirections with
    | body, [] => return body
    | .subshell line body _, redirections => return .subshell line body redirections
    | body, redirections => return .redirected line body redirections

def readRedirections : Nat → Reader (List Redirection)
  | 0 => fail .tooDeep
  | fuel + 1 => do
    if (← readToken fuel) == .redirection then
      let redirection ← readTarget fuel
      return redirection :: (← readRedirections fuel)
    else
      pushToken
      return []

/-- Reads the target of the redirection just met. -/
def readTarget : Nat → Reader Redirection
  | 0 => fail .tooDeep
  | fuel + 1 => do
    let (number, kind, dropsTabs) := (← get).redirection
    match kind with
    | .document _ =>
      setCheck { isEndMark := true }
      if (← readToken fuel) != .word then failHere none
      let input ← get
      let id ← addDocument (unquotedText input.word) input.wordIsQuoted dropsTabs
      return .mk number (.document id) []
    | kind =>
      if (← readToken fuel) != .word then failHere none
      let word := (← get).word
      return .mk number kind word

/-- Reads a simple command, given backwards what has been read of it. -/
def readSimple : Nat → Nat → Bool → List ShellWord → List ShellWord → List Redirection →
    Reader Command
  | 0, _, _, _, _, _ => fail .tooDeep
  | fuel + 1, line, atStart, assignments, words, redirections => do
    setCheck { aliases := atStart }
    let finish : Reader Command := do
      pushToken
      return .simple line assignments.reverse words.reverse redirections.reverse
    match ← readToken fuel with
    | .word =>
      let word := (← get).word
      if atStart && isAssignment word then
        readSimple fuel line true (word :: assignments) words redirections
      else readSimple fuel line false assignments (word :: words) redirections
    | .redirection =>
      let redirection ← readTarget fuel
      readSimple fuel line atStart assignments words (redirection :: redirections)
    | .openBracket =>
      match words, assignments, redirections with
      | [word], [], [] => readDefinition fuel word
      | _, _, _ => finish
    | _ => finish

def readDefinition : Nat → ShellWord → Reader Command
  | 0, _ => fail .tooDeep
  | fuel + 1, word => do
    expectToken fuel .closeBracket
    match plainText? word with
    | some name =>
      if !isNameText name || (← get).isSpecial name then fail .badFunctionName
      setCheck { skipsNewlines := true, keywords := true, aliases := true }
      return .definition name (← readCommand fuel)
    | none => fail .badFunctionName

/-- Reads a conditional command after the word that begins a condition. -/
def readConditional : Nat → Reader Command
  | 0 => fail .tooDeep
  | fuel + 1 => do
    let condition ← readBody fuel
    expectToken fuel (.keyword .thenWord)
    let body ← readBody fuel
    match ← readToken fuel with
    | .keyword .elif => return .conditional condition body (some (← readConditional fuel))
    | .keyword .elseWord => return .conditional condition body (some (← readBody fuel))
    | _ =>
      pushToken
      return .conditional condition body none

def readLoop : Nat → Bool → Reader Command
  | 0, _ => fail .tooDeep
  | fuel + 1, whileSucceeding => do
    let condition ← readBody fuel
    expectToken fuel (.keyword .doWord)
    let body ← readBody fuel
    expectToken fuel (.keyword .done)
    return .loop whileSucceeding condition body

def readIteration : Nat → Nat → Reader Command
  | 0, _ => fail .tooDeep
  | fuel + 1, line => do
    let token ← readToken fuel
    let input ← get
    match token, input.wordIsQuoted, plainText? input.word with
    | .word, false, some name =>
      if !isNameText name then fail .badLoopVariable
      setCheck { skipsNewlines := true, keywords := true, aliases := true }
      let words ←
        match ← readToken fuel with
        | .keyword .inWord =>
          let words ← readWords fuel
          let last := (← get).last
          if last != .newline && last != .semicolon then failHere none
          pure words
        | token =>
          if token != .semicolon then pushToken
          pure [allParameters]
      setCheck { skipsNewlines := true, keywords := true, aliases := true }
      expectToken fuel (.keyword .doWord)
      let body ← readBody fuel
      expectToken fuel (.keyword .done)
      return .iteration line name words body
    | _, _, _ => fail .badLoopVariable

/-- Reads words up to another token, which is taken. -/
def readWords : Nat → Reader (List ShellWord)
  | 0 => fail .tooDeep
  | fuel + 1 => do
    if (← readToken fuel) == .word then
      let word := (← get).word
      return word :: (← readWords fuel)
    else return []

def readSelection : Nat → Nat → Reader Command
  | 0, _ => fail .tooDeep
  | fuel + 1, line => do
    if (← readToken fuel) != .word then failHere (some .word)
    let subject := (← get).word
    setCheck { skipsNewlines := true, keywords := true, aliases := true }
    expectToken fuel (.keyword .inWord)
    return .selection line subject (← readBranches fuel)

def readBranches : Nat → Reader (List Branch)
  | 0 => fail .tooDeep
  | fuel + 1 => do
    setCheck { skipsNewlines := true, keywords := true }
    match ← readToken fuel with
    | .keyword .esac => return []
    | token =>
      if token == .openBracket then let _ ← readToken fuel
      let patterns ← readPatterns fuel
      if (← get).last != .closeBracket then failHere (some .closeBracket)
      let body ← readList fuel false true
      setCheck { skipsNewlines := true, keywords := true }
      match ← readToken fuel with
      | .keyword .esac => return [.mk patterns body]
      | .endOfBranch => return .mk patterns body :: (← readBranches fuel)
      | _ => failHere (some .endOfBranch)

/-- Reads patterns from the token read last on, up to a token that follows them. -/
def readPatterns : Nat → Reader (List ShellWord)
  | 0 => fail .tooDeep
  | fuel + 1 => do
    let word := (← get).word
    if (← readToken fuel) == .pipe then
      let _ ← readToken fuel
      return word :: (← readPatterns fuel)
    else return [word]

end

/-- What the reader of a script finds: a command, an empty line, or the end. -/
inductive Reading
  | command (command : Command)
  | nothing
  | finished

def readingFuel : Nat := 1000000000

/-- Reads the commands of one line, or what of it is left. -/
def readComplete : Reader Reading := do
  modify fun input => { input with pushedBack := false, check := {}, pending := [] }
  match ← readList readingFuel true false with
  | some command => return .command command
  | none => return if (← get).last == .endOfFile then .finished else .nothing

end KeyJoin.Shell
