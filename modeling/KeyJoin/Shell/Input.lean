import KeyJoin.Shell.Syntax

/-!
# The input of the shell

Commands are read from a stack of texts: the script, and above it the values of
the aliases that are being replaced.  The reader counts lines, looks one token
ahead, and keeps the here-documents whose bodies are still to come.
-/

namespace KeyJoin.Shell

inductive Keyword
  | notMark
  | caseWord
  | doWord
  | done
  | elif
  | elseWord
  | esac
  | fi
  | forWord
  | ifWord
  | inWord
  | thenWord
  | untilWord
  | whileWord
  | openBrace
  | closeBrace
  deriving DecidableEq, Repr

def Keyword.text : Keyword → String
  | notMark => "!"
  | caseWord => "case"
  | doWord => "do"
  | done => "done"
  | elif => "elif"
  | elseWord => "else"
  | esac => "esac"
  | fi => "fi"
  | forWord => "for"
  | ifWord => "if"
  | inWord => "in"
  | thenWord => "then"
  | untilWord => "until"
  | whileWord => "while"
  | openBrace => "\x7b"
  | closeBrace => "\x7d"

def keywords : List Keyword :=
  [.notMark, .caseWord, .doWord, .done, .elif, .elseWord, .esac, .fi, .forWord, .ifWord, .inWord,
    .thenWord, .untilWord, .whileWord, .openBrace, .closeBrace]

def keyword? (text : RawText) : Option Keyword :=
  keywords.find? fun word => raw word.text == text

inductive Token
  | endOfFile
  | newline
  | semicolon
  | background
  | and
  | or
  | pipe
  | openBracket
  | closeBracket
  | endOfBranch
  | redirection
  | word
  | keyword (kind : Keyword)
  deriving DecidableEq, Repr

/-- How a token is called in a message. -/
def Token.name : Token → String
  | endOfFile => "end of file"
  | newline => "newline"
  | semicolon => "\";\""
  | background => "\"&\""
  | and => "\"&&\""
  | or => "\"||\""
  | pipe => "\"|\""
  | openBracket => "\"(\""
  | closeBracket => "\")\""
  | endOfBranch => "\";;\""
  | redirection => "redirection"
  | word => "word"
  | keyword kind => "\"" ++ kind.text ++ "\""

/-- Whether a token ends a list of commands. -/
def Token.endsList : Token → Bool
  | endOfFile | closeBracket | endOfBranch => true
  | keyword kind =>
    [Keyword.doWord, .done, .elif, .elseWord, .esac, .fi, .thenWord, .closeBrace].contains kind
  | _ => false

/-- Why a script cannot be read. -/
inductive SyntaxFault
  | unterminatedQuote
  | unterminatedBackquote
  | missingBrace
  | missingBrackets
  | badLoopVariable
  | badFunctionName
  | badDescriptor
  | unexpected (token : Token) (expected : Option Token)
  | tooDeep
  deriving DecidableEq, Repr

def SyntaxFault.message : SyntaxFault → String
  | unterminatedQuote => "Unterminated quoted string"
  | unterminatedBackquote => "EOF in backquote substitution"
  | missingBrace => "Missing '\x7d'"
  | missingBrackets => "Missing '))'"
  | badLoopVariable => "Bad for loop variable"
  | badFunctionName => "Bad function name"
  | badDescriptor => "Bad fd number"
  | unexpected token none => token.name ++ " unexpected"
  | unexpected token (some expected) =>
    token.name ++ " unexpected (expecting " ++ expected.name ++ ")"
  | tooDeep => "Too deep"

/-- A fault with the line on which it was found. -/
structure SyntaxProblem where
  line : Nat
  fault : SyntaxFault

/-- A text being read.  If it is the value of an alias, `names` are that alias and those whose values
ended right before its name was replaced. -/
structure Strip where
  rest : RawText
  names : List RawText := []
  endsInBlank : Bool := false

/-- What the next token is looked at for. -/
structure TokenCheck where
  skipsNewlines : Bool := false
  keywords : Bool := false
  aliases : Bool := false
  isEndMark : Bool := false

/-- A here-document whose body is still to be read. -/
structure PendingDocument where
  id : Nat
  endMark : RawText
  isQuoted : Bool
  dropsTabs : Bool

structure Input where
  strips : List Strip
  line : Nat := 1
  pushedBack : Bool := false
  last : Token := .endOfFile
  word : ShellWord := []
  wordIsQuoted : Bool := false
  redirection : Nat × RedirectionKind × Bool := (0, .input, false)
  check : TokenCheck := {}
  pending : List PendingDocument := []
  documents : List (Nat × ShellWord) := []
  nextDocument : Nat := 0
  aliases : List (RawText × RawText) := []
  ended : List RawText := []
  isSpecial : RawText → Bool := fun _ => false

abbrev Reader := StateT Input (Except SyntaxProblem)

namespace Reader

def fail {α : Type} (fault : SyntaxFault) : Reader α := fun input =>
  .error ⟨input.line, fault⟩

/-- Fails at the token read last. -/
def failHere {α : Type} (expected : Option Token) : Reader α := fun input =>
  .error ⟨input.line, .unexpected input.last expected⟩

/-- The strips without those that are used up, the names of these, and whether one of them ended in a
blank.  The last strip stays. -/
def dropUsed : List Strip → List RawText → Bool → List Strip × List RawText × Bool
  | ⟨[], names, endsInBlank⟩ :: strip :: strips, ended, blank =>
    dropUsed (strip :: strips) (names ++ ended) (blank || endsInBlank)
  | strips, ended, blank => (strips, ended, blank)

/-- Takes a character.  The names of strips that are used up are free again once another character
has been asked for. -/
def nextChar : Reader (Option Char) := fun input =>
  match input.strips with
  | ⟨c :: rest, names, endsInBlank⟩ :: strips =>
    .ok (some c, { input with strips := ⟨rest, names, endsInBlank⟩ :: strips, ended := [] })
  | strips =>
    let (strips, ended, blank) := dropUsed strips [] false
    let check := if blank then { input.check with aliases := true } else input.check
    let input := { input with check := check, ended := ended }
    match strips with
    | ⟨c :: rest, names, endsInBlank⟩ :: strips =>
      .ok (some c, { input with strips := ⟨rest, names, endsInBlank⟩ :: strips })
    | strips => .ok (none, { input with strips := strips })

def pushText (text : RawText) : Reader Unit :=
  modify fun input =>
    match input.strips with
    | strip :: strips =>
      { input with strips := { strip with rest := text ++ strip.rest } :: strips }
    | [] => { input with strips := [{ rest := text }] }

def pushChar : Option Char → Reader Unit
  | some c => pushText [c]
  | none => return

def countLine : Reader Unit :=
  modify fun input => { input with line := input.line + 1 }

/-- Takes a character; lines joined by a backslash are one. -/
def nextJoined : Nat → Reader (Option Char)
  | 0 => return none
  | fuel + 1 => do
    match ← nextChar with
    | some '\\' =>
      match ← nextChar with
      | some '\n' =>
        countLine
        nextJoined fuel
      | c =>
        pushChar c
        return some '\\'
    | c => return c

def setLast (token : Token) : Reader Token := do
  modify fun input => { input with last := token }
  return token

def pushToken : Reader Unit :=
  modify fun input => { input with pushedBack := true }

def setCheck (check : TokenCheck) : Reader Unit :=
  modify fun input => { input with check := check }

/-- The alias of a name, unless its value is being read or has just been read to its end. -/
def alias? (name : RawText) : Reader (Option RawText) := do
  let input ← get
  if input.ended.contains name || input.strips.any fun strip => strip.names.contains name then
    return none
  else return input.aliases.lookup name

def pushAlias (name value : RawText) : Reader Unit :=
  modify fun input =>
    { input with
      strips :=
        ⟨value, name :: input.ended, (value.getLast?.map isBlankByte).getD false⟩ :: input.strips
      ended := [] }

/-- Skips the rest of the line. -/
def skipComment : Nat → Reader Unit
  | 0 => return
  | fuel + 1 => do
    match ← nextChar with
    | some '\n' => pushChar (some '\n')
    | none => return
    | some _ => skipComment fuel

/-- Takes characters while they satisfy `p`, giving them and the character after them. -/
def takeWhile (p : Char → Bool) : Nat → RawText → Option Char → Reader (RawText × Option Char)
  | 0, text, c => return (text.reverse, c)
  | _, text, none => return (text.reverse, none)
  | fuel + 1, text, some c => do
    if p c then takeWhile p fuel (c :: text) (← nextJoined fuel) else return (text.reverse, some c)

end Reader

end KeyJoin.Shell
