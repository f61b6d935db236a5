import KeyJoin.Host.Conversion
import KeyJoin.Tools.RegexSyntax

/-!
# Tokens of programs over records

A slash begins an expression between slashes where a value may stand, and means
division elsewhere.  A name right before a parenthesis calls a function.
-/

namespace KeyJoin.Tools.Records

inductive Token
  | newline
  | number (value : Float)
  | text (text : RawText)
  | regex (text : RawText)
  | name (name : RawText)
  | function (name : RawText)
  | builtin (name : RawText)
  | keyword (name : String)
  | mark (text : String)
  deriving BEq

/-- A token with the number of its line and how it is written. -/
structure PlacedToken where
  token : Token
  line : Nat
  shown : RawText

def keywords : List String :=
  ["BEGIN", "END", "break", "continue", "delete", "do", "else", "exit", "for", "func", "function",
    "getline", "if", "in", "next", "nextfile", "print", "printf", "return", "while"]

def builtinNames : List String :=
  ["atan2", "close", "cos", "exp", "fflush", "gsub", "index", "int", "length", "log", "match",
    "rand", "sin", "split", "sprintf", "sqrt", "srand", "sub", "substr", "system", "systime",
    "tolower", "toupper"]

/-- Marks of several characters before those that begin them. -/
def marks : List String :=
  ["+=", "-=", "*=", "/=", "%=", "^=", "==", "<=", ">=", "!=", "!~", "++", "--", "&&", "||", ">>",
    "\x7b", "\x7d", "(", ")", "[", "]", ";", ",", "+", "-", "*", "/", "%", "^", "!", ">", "<", "|",
    "?", ":", "~", "$", "="]

/-- Whether a value has ended with a token, so that a slash after it means division. -/
def endsValue : Token → Bool
  | .number _ | .text _ | .regex _ | .name _ | .builtin _ => true
  | .mark mark => [")", "]", "$", "++", "--"].contains mark
  | _ => false

/-- The character that an escape stands for and what follows it, given the text after the backslash;
a backslash before anything unknown stands for itself. -/
def readTextEscape (text : RawText) : Char × RawText :=
  match text with
  | [] => ('\\', [])
  | c :: rest =>
    if c == '"' || c == '\\' then (c, rest)
    else if isOctalDigit c then readStringEscape text
    else
      match stringEscape? c with
      | some d => (d, rest)
      | none => ('\\', text)

/-- The text of a string given what follows its opening quote, and what follows the closing one. -/
def stringText : Nat → RawText → RawText → Option (RawText × RawText)
  | 0, _, _ => none
  | _, _, [] => none
  | _, _, '\n' :: _ => none
  | _, out, '"' :: rest => some (out.reverse, rest)
  | fuel + 1, out, '\\' :: '\n' :: rest => stringText fuel out rest
  | fuel + 1, out, '\\' :: rest =>
    let (c, rest) := readTextEscape rest
    stringText fuel (c :: out) rest
  | fuel + 1, out, c :: rest => stringText fuel (c :: out) rest

/-- A text with its escapes replaced. -/
def withoutEscapes : Nat → RawText → RawText
  | 0, text => text
  | _, [] => []
  | fuel + 1, '\\' :: rest =>
    let (c, rest) := readTextEscape rest
    c :: withoutEscapes fuel rest
  | fuel + 1, c :: rest => c :: withoutEscapes fuel rest

/-- The expression that a text writes, or what is wrong with it. -/
def readRecordRegex (text : RawText) : Except RawText Regex :=
  match Regex.read { isExtended := true, hasEscapes := true } text with
  | .ok (regex, _) => .ok regex
  | .error fault =>
    let reason := match fault with
      | .nothingToRepeat => "missing operand"
      | .unmatchedOpening => "missing ')'"
      | .decreasingBounds | .tooBig => "bad interval expression"
      | _ => "bad class -- [], [^] or ["
    .error (raw "regular expression compile failed (" ++ raw reason ++ raw ")\n" ++ text)

/-- The text between slashes given what follows the opening one; a set may hold a slash. -/
def regexText : Nat → Bool → RawText → RawText → Option (RawText × RawText)
  | 0, _, _, _ => none
  | _, _, _, [] => none
  | _, _, _, '\n' :: _ => none
  | fuel + 1, inSet, out, '\\' :: '/' :: rest => regexText fuel inSet ('/' :: out) rest
  | fuel + 1, inSet, out, '\\' :: c :: rest => regexText fuel inSet (c :: '\\' :: out) rest
  | fuel + 1, false, out, c :: rest =>
    if c == '/' then some (out.reverse, rest) else regexText fuel (c == '[') (c :: out) rest
  | fuel + 1, true, out, c :: rest =>
    let isFirst := out.head? == some '[' || (out.head? == some '^' && (out.drop 1).head? == some '[')
    regexText fuel (!(c == ']' && !isFirst)) (c :: out) rest

def programNumber (text : RawText) : Float × RawText :=
  let (digits, places, rest) := readPlaces Char.isDigit text
  let (exponent, rest) :=
    match rest with
    | e :: after =>
      if e == 'e' || e == 'E' then (readExponent? after).getD (0, rest) else (0, rest)
    | [] => (0, rest)
  (floatOfDecimal digits places exponent, rest)

/-- The word that begins a text as a token. -/
def wordToken (word rest : RawText) : Token :=
  let text := String.ofList word
  if keywords.contains text then .keyword (if text == "func" then "function" else text)
  else if builtinNames.contains text then .builtin word
  else if rest.head? == some '(' then .function word
  else .name word

/-- The tokens of a program, backwards, or what is wrong with it. -/
def tokensFrom : Nat → Nat → List PlacedToken → RawText → Except RawText (List PlacedToken)
  | 0, _, out, _ => .ok out
  | _, _, out, [] => .ok out
  | fuel + 1, line, out, c :: rest =>
    let last := (out.head?.map (·.token)).getD .newline
    let add := fun (token : Token) (after : RawText) =>
      let shown := (c :: rest).take (rest.length + 1 - after.length)
      tokensFrom fuel line (⟨token, line, shown⟩ :: out) after
    let where_ := raw "line " ++ naturalText line ++ raw ": "
    if c == '\n' then tokensFrom fuel (line + 1) (⟨.newline, line, raw "end of line"⟩ :: out) rest
    else if isSpaceByte c then tokensFrom fuel line out rest
    else if c == '\\' && rest.head? == some '\n' then tokensFrom fuel (line + 1) out (rest.drop 1)
    else if c == '#' then tokensFrom fuel line out (rest.dropWhile (· != '\n'))
    else if c == '"' then
      match stringText (rest.length + 1) [] rest with
      | some (text, after) => add (.text text) after
      | none => .error (where_ ++ raw "runaway string constant " ++ (c :: lineBody rest).take 10 ++
          raw " ...")
    else if c == '/' && !endsValue last then
      match regexText (rest.length + 1) false [] rest with
      | some (text, after) => add (.regex text) after
      | none => .error (where_ ++ raw "runaway regular expression " ++
          (c :: lineBody rest).take 10 ++ raw " ...")
    else if c.isDigit || (c == '.' && (rest.head?.map Char.isDigit).getD false) then
      let (value, after) := programNumber (c :: rest)
      add (.number value) after
    else if isNameStart c then
      let word := (c :: rest).takeWhile isNameCharacter
      let after := (c :: rest).drop word.length
      add (wordToken word after) after
    else
      match marks.find? fun mark => mark.toList.isPrefixOf (c :: rest) with
      | some mark => add (.mark mark) ((c :: rest).drop mark.length)
      | none => .error (naturalText line ++ raw ": unexpected character '" ++ [c] ++ raw "'")

end KeyJoin.Tools.Records
