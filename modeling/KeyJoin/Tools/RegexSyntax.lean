import KeyJoin.Shell.Pattern
import KeyJoin.Tools.Regex

/-!
# The notation of regular expressions

A regular expression is written in a basic or an extended notation, which differ
in whether the marks for groups, choices and repetitions have a backslash in
front.  A mark that stands where it cannot be one means itself.
-/

namespace KeyJoin

inductive RegexFault
  | invalidExpression
  | unmatchedBracket
  | bareClass
  | unmatchedOpening
  | unmatchedClosing
  | unmatchedBrace
  | invalidBrace
  | decreasingBounds
  | invalidRange
  | invalidClass
  | invalidReference
  | nothingToRepeat
  | trailingBackslash
  | tooBig
  deriving DecidableEq, Repr

def RegexFault.description : RegexFault → String
  | invalidExpression => "Invalid regular expression"
  | unmatchedBracket => "Unmatched [, [^, [:, [., or [="
  | bareClass => "character class syntax is [[:space:]], not [:space:]"
  | unmatchedOpening => "Unmatched ( or \\("
  | unmatchedClosing => "Unmatched ) or \\)"
  | unmatchedBrace => "Unmatched \\\x7b"
  | invalidBrace | decreasingBounds => "Invalid content of \\\x7b\\\x7d"
  | invalidRange => "Invalid range end"
  | invalidClass => "Invalid character class name"
  | invalidReference => "Invalid back reference"
  | nothingToRepeat => "Invalid preceding regular expression"
  | trailingBackslash => "Trailing backslash"
  | tooBig => "Regular expression too big"

/-- A notation: `isExtended` has its marks without a backslash, `hasEscapes` knows the escapes of
strings, also within sets, and `isLenient` makes the best of marks that stand where they mean
nothing: a repetition of nothing is left out, and braces and closing parentheses mean themselves. -/
structure RegexNotation where
  isExtended : Bool := false
  hasEscapes : Bool := false
  isLenient : Bool := false
  ignoresCase : Bool := false

inductive RegexToken
  | one (set : CharacterSet)
  | edge (kind : TextEdge)
  | opening
  | closing
  | choice
  | repetition (least : Nat) (most : Option Nat)
  | back (number : Nat)

/-- The character that an escape of a string stands for. -/
def stringEscape? : Char → Option Char
  | 'n' => some '\n'
  | 't' => some '\t'
  | 'r' => some '\x0d'
  | 'f' => some '\x0c'
  | 'v' => some '\x0b'
  | 'a' => some '\x07'
  | 'b' => some '\x08'
  | _ => none

/-- The character after a backslash where the escapes of strings are known. -/
def readStringEscape (text : RawText) : Char × RawText :=
  match text with
  | [] => ('\\', [])
  | c :: rest =>
    if isOctalDigit c then
      let digits := (text.take 3).takeWhile isOctalDigit
      (byteCharacter (readInBase 8 digits), text.drop digits.length)
    else ((stringEscape? c).getD c, rest)

/-! ## Sets -/

/-- A named class, a collating symbol or a single character of a set, as ranges; the second part
says whether it may begin or end a range. -/
def setMember (hasEscapes : Bool) (c : Char) (rest : RawText) :
    Except RegexFault (List (Char × Char) × Bool × RawText) :=
  let closed := fun (mark : Char) (text : RawText) =>
    let rec go : RawText → RawText → Option (RawText × RawText)
      | _, [] => none
      | name, d :: after =>
        if d == mark && after.head? == some ']' then some (name.reverse, after.drop 1)
        else go (d :: name) after
    go [] text
  match c, rest with
  | '[', ':' :: text =>
    match closed ':' text with
    | none => .error .unmatchedBracket
    | some (name, after) =>
      match Shell.characterClass? (String.ofList name) with
      | some ranges => .ok (ranges, false, after)
      | none => .error .invalidClass
  | '[', mark :: text =>
    if mark == '.' || mark == '=' then
      match closed mark text with
      | some ([d], after) => .ok ([(d, d)], mark == '.', after)
      | some _ => .error .unmatchedBracket
      | none => .error .unmatchedBracket
    else .ok ([('[', '[')], true, rest)
  | '\\', d :: after =>
    if hasEscapes then
      let (e, rest) := readStringEscape (d :: after)
      .ok ([(e, e)], true, rest)
    else .ok ([('\\', '\\')], true, rest)
  | c, rest => .ok ([(c, c)], true, rest)

/-- The members of a set up to its closing bracket, and what follows that. -/
def setMembers (hasEscapes : Bool) :
    Nat → Bool → List (Char × Char) → RawText → Except RegexFault (List (Char × Char) × RawText)
  | 0, _, _, _ => .error .unmatchedBracket
  | _, _, _, [] => .error .unmatchedBracket
  | fuel + 1, isFirst, ranges, c :: rest => do
    if c == ']' && !isFirst then return (ranges, rest)
    let (member, mayRange, rest) ← setMember hasEscapes c rest
    match mayRange, member, rest with
    | true, [(first, _)], '-' :: last :: after =>
      if last == ']' then setMembers hasEscapes fuel false (member ++ ranges) rest
      else
        let (end_, mayEnd, after) ← setMember hasEscapes last after
        match mayEnd, end_ with
        | true, [(last, _)] =>
          if last < first then throw .invalidRange
          setMembers hasEscapes fuel false ((first, last) :: ranges) after
        | _, _ => throw .invalidRange
    | _, _, _ => setMembers hasEscapes fuel false (member ++ ranges) rest

/-- A set given the text after its opening bracket, and what follows it. -/
def readRegexSet (rules : RegexNotation) (text : RawText) :
    Except RegexFault (CharacterSet × RawText) := do
  let (isNegated, text) :=
    match text with
    | '^' :: rest => (true, rest)
    | _ => (false, text)
  if text.isEmpty then throw .invalidExpression
  let (ranges, rest) ← setMembers rules.hasEscapes (text.length + 1) true [] text
  let members := text.take (text.length - rest.length - 1)
  if rules.isLenient && 1 < members.length && members.head? == some ':' &&
      members.getLast? == some ':' then
    throw .bareClass
  return (⟨isNegated, ranges, rules.ignoresCase⟩, rest)

/-! ## Tokens -/

def largestRepetition : Nat := 32767

/-- The bounds of a repetition given the text after its opening brace, and what follows it. -/
def readBounds (rules : RegexNotation) (text : RawText) :
    Except RegexFault (RegexToken × RawText) := do
  let first := text.takeWhile Char.isDigit
  let rest := text.drop first.length
  let (second?, rest) :=
    match rest with
    | ',' :: rest =>
      let second := rest.takeWhile Char.isDigit
      (some second, rest.drop second.length)
    | _ => (none, rest)
  let rest ←
    match rules.isExtended, rest with
    | true, '\x7d' :: rest => pure rest
    | false, '\\' :: '\x7d' :: rest => pure rest
    | _, rest => throw (if rest.contains '\x7d' then .invalidBrace else .unmatchedBrace)
  let least := readInBase 10 first
  let bounds ←
    match first.isEmpty, second? with
    | true, none => throw .invalidBrace
    | _, none => pure (least, some least)
    | _, some [] => pure (least, none)
    | _, some digits => pure (least, some (readInBase 10 digits))
  if bounds.2.any (· < bounds.1) then throw .decreasingBounds
  if largestRepetition < bounds.1 || bounds.2.any (largestRepetition < ·) then throw .tooBig
  return (.repetition bounds.1 bounds.2, rest)

def wordRanges : List (Char × Char) :=
  [('0', '9'), ('A', 'Z'), ('_', '_'), ('a', 'z')]

def spaceRanges : List (Char × Char) :=
  [('\t', '\x0d'), (' ', ' ')]

/-- What a letter means after a backslash where the escapes of strings are not known. -/
def namedToken? : Char → Option RegexToken
  | 'w' => some (.one { ranges := wordRanges })
  | 'W' => some (.one { ranges := wordRanges, isNegated := true })
  | 's' => some (.one { ranges := spaceRanges })
  | 'S' => some (.one { ranges := spaceRanges, isNegated := true })
  | 'b' => some (.edge .word)
  | 'B' => some (.edge .inWord)
  | '<' => some (.edge .wordStart)
  | '>' => some (.edge .wordEnd)
  | '\x60' => some (.edge .textStart)
  | '\'' => some (.edge .textEnd)
  | _ => none

/-- The repetition that a mark asks for. -/
def repetition? : Char → Option RegexToken
  | '*' => some (.repetition 0 none)
  | '+' => some (.repetition 1 none)
  | '?' => some (.repetition 0 (some 1))
  | _ => none

/-- Whether a mark that is a dollar in the basic notation ends a line: at the end, and in front of
what ends a group or a choice. -/
def endsPart : RawText → Bool
  | [] => true
  | '\\' :: ')' :: _ | '\\' :: '|' :: _ => true
  | _ => false

/-- The tokens of an expression; `isStart` holds where nothing is there to be repeated. -/
def regexTokens (rules : RegexNotation) :
    Nat → Bool → Bool → RawText → Except RegexFault (List RegexToken)
  | 0, _, _, _ => return []
  | _, _, _, [] => return []
  | fuel + 1, isStart, mayAnchor, c :: rest => do
    let literal := fun (d : Char) (rest : RawText) => do
      return .one (.single rules.ignoresCase d) :: (← regexTokens rules fuel false false rest)
    let part := fun (token : RegexToken) (rest : RawText) => do
      return token :: (← regexTokens rules fuel false false rest)
    let border := fun (token : RegexToken) (rest : RawText) => do
      return token :: (← regexTokens rules fuel true true rest)
    let repetition := fun (mark : Char) (token : RegexToken) (rest : RawText) =>
      if !isStart then part token rest
      else if !rules.isExtended then literal mark rest
      else if rules.isLenient then regexTokens rules fuel true mayAnchor rest
      else throw .nothingToRepeat
    let bounds := fun (rest : RawText) =>
      match readBounds rules rest with
      | .ok (token, rest) =>
        if isStart then (if rules.isLenient then literal '\x7b' rest else throw .nothingToRepeat)
        else part token rest
      | .error fault =>
        let isBrace := fault == .invalidBrace || fault == .unmatchedBrace
        if isBrace && (rules.hasEscapes || (rules.isLenient && rules.isExtended)) then
          literal '\x7b' rest
        else throw fault
    if c == '\\' then
      match rest with
      | [] => if rules.hasEscapes then literal '\\' [] else throw .trailingBackslash
      | d :: after =>
        if rules.hasEscapes then
          let (e, rest) := readStringEscape rest
          literal e rest
        else
          match namedToken? d with
          | some (.edge kind) => border (.edge kind) after
          | some token => part token after
          | none =>
            if '1' ≤ d && d ≤ '9' then part (.back (digitValue d)) after
            else if rules.isExtended then literal d after
            else
              match d with
              | '(' => border .opening after
              | ')' => part .closing after
              | '|' => border .choice after
              | '\x7b' => bounds after
              | _ =>
                match if d == '*' then none else repetition? d with
                | some token => repetition d token after
                | none => literal d after
    else if c == '[' then
      let (set, rest) ← readRegexSet rules rest
      part (.one set) rest
    else if c == '.' then part (.one .all) rest
    else if c == '^' then
      if rules.isExtended || mayAnchor then border (.edge .lineStart) rest else literal c rest
    else if c == '$' then
      if rules.isExtended || endsPart rest then border (.edge .lineEnd) rest else literal c rest
    else if c == '*' then repetition c (.repetition 0 none) rest
    else if !rules.isExtended then literal c rest
    else
      match c with
      | '(' => border .opening rest
      | ')' => part .closing rest
      | '|' => border .choice rest
      | '\x7b' => bounds rest
      | _ =>
        match repetition? c with
        | some token => repetition c token rest
        | none => literal c rest

/-! ## Structure -/

/-- A group that is being read; finished choices and the parts of the last one stand backwards. -/
structure RegexFrame where
  number : Nat
  choices : List Regex := []
  parts : List Regex := []

def RegexFrame.lastChoice (frame : RegexFrame) : Regex :=
  match frame.parts with
  | [] => .empty
  | part :: parts => parts.foldl (fun rest part => .sequence part rest) part

def RegexFrame.regex (frame : RegexFrame) : Regex :=
  frame.choices.foldl (fun rest choice => .choice choice rest) frame.lastChoice

def RegexFrame.add (frame : RegexFrame) (part : Regex) : RegexFrame :=
  { frame with parts := part :: frame.parts }

/-- Puts tokens together; `frame` is the innermost open group, `outer` are those around it, and
`closed` are the groups that have ended. -/
def regexOfTokens (rules : RegexNotation) :
    List RegexToken → RegexFrame → List RegexFrame → Nat → List Nat → Except RegexFault Regex
  | [], frame, outer, _, _ =>
    if !outer.isEmpty then .error .unmatchedOpening
    else if rules.hasEscapes && frame.parts.isEmpty && !frame.choices.isEmpty then
      .error .nothingToRepeat
    else .ok frame.regex
  | token :: tokens, frame, outer, next, closed =>
    let isMissing := rules.hasEscapes && frame.parts.isEmpty
    match token with
    | .one set => regexOfTokens rules tokens (frame.add (.one set)) outer next closed
    | .edge kind => regexOfTokens rules tokens (frame.add (.edge kind)) outer next closed
    | .back number =>
      if closed.contains number then
        regexOfTokens rules tokens (frame.add (.back number)) outer next closed
      else .error .invalidReference
    | .repetition least most =>
      match frame.parts with
      | [] => .error .nothingToRepeat
      | part :: parts =>
        regexOfTokens rules tokens { frame with parts := .repeated part least most :: parts } outer next
          closed
    | .choice =>
      if isMissing then .error .nothingToRepeat
      else
        regexOfTokens rules tokens
          { frame with choices := frame.lastChoice :: frame.choices, parts := [] } outer next closed
    | .opening => regexOfTokens rules tokens { number := next } (frame :: outer) (next + 1) closed
    | .closing =>
      match outer with
      | [] =>
        if (rules.isLenient && rules.isExtended) || rules.hasEscapes then
          regexOfTokens rules tokens (frame.add (.one (.single rules.ignoresCase ')'))) outer next
            closed
        else .error .unmatchedClosing
      | parent :: outer =>
        if isMissing then .error .nothingToRepeat
        else
          regexOfTokens rules tokens (parent.add (.group frame.number frame.regex)) outer next
            (frame.number :: closed)

namespace Regex

/-- Reads an expression, and gives it with the number of its groups. -/
def read (rules : RegexNotation) (text : RawText) : Except RegexFault (Regex × Nat) := do
  let tokens ← regexTokens rules (text.length + 1) true true text
  let regex ← regexOfTokens rules tokens { number := 0 } [] 1 []
  return (regex, (tokens.filter fun token => match token with
    | .opening => true
    | _ => false).length)

/-- The expression that matches a text alone. -/
def exactly (ignoresCase : Bool) : RawText → Regex
  | [] => .empty
  | [c] => .one (.single ignoresCase c)
  | c :: cs => .sequence (.one (.single ignoresCase c)) (exactly ignoresCase cs)

end Regex

end KeyJoin
