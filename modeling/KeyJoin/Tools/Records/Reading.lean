import KeyJoin.Tools.Records.Syntax
import KeyJoin.Tools.Records.Tokens

/-!
# Reading programs over records

The tokens of a program are put together by precedence.  From loose to tight
stand assignment, the conditional, the choices, membership, matching,
comparison, joining, sums, products, signs, lines from commands, powers, steps
and fields.  Outside of parentheses the values of a print statement hold no
comparison by a closing angle, for that names the file to print to.
-/

namespace KeyJoin.Tools.Records

/-- What a name has been used for. -/
inductive NameUse
  | value
  | table
  | function
  deriving DecidableEq

/-- The tokens left, and what the reader has seen.  `lines` is the number of lines of the program,
and `parameters` are those of the function that is being read.  Calls are kept with the number of their
arguments and the line, functions with the number of their parameters. -/
structure ReadingState where
  tokens : List PlacedToken
  lines : Nat
  braces : Nat := 0
  parentheses : Nat := 0
  isPrinting : Bool := false
  loops : Nat := 0
  inFunction : Bool := false
  takesRecords : Bool := false
  parameters : List RawText := []
  uses : List (RawText × NameUse) := []
  called : List (RawText × Nat × Nat) := []
  defined : List (RawText × Nat) := []

/-- A fault ends the reading with messages. -/
abbrev ProgramReader := StateT ReadingState (Except (List RawText))

namespace ProgramReader

/-! ## Tokens -/

def peek : ProgramReader (Option Token) := do
  return (← get).tokens.head?.map (·.token)

def currentLine : ProgramReader Nat := do
  let state ← get
  return (state.tokens.head?.map (·.line)).getD (state.lines + 1)

def refuse {α : Type} (message : RawText) : ProgramReader α := do
  throw [raw "line " ++ naturalText (← currentLine) ++ raw ": " ++ message]

def missingBrace (lines : Nat) : RawText :=
  raw "line " ++ naturalText (lines + 1) ++ raw ": missing \x7d near end of file"

/-- Refuses the next token.  At the end the missing brace is told of as well. -/
def refuseNext {α : Type} : ProgramReader α := do
  let state ← get
  let atToken := fun (next : PlacedToken) =>
    raw "line " ++ naturalText next.line ++ raw ": syntax error at or near " ++ next.shown
  match state.tokens with
  | [] =>
    if 0 < state.parentheses then refuse (raw "missing ) near end of file")
    else if 0 < state.braces then throw [missingBrace state.lines]
    else refuse (raw "syntax error at or near end of file")
  | next :: rest =>
    if next.token == .mark "\x7d" && 0 < state.parentheses then refuse (raw "missing ) near \x7d")
    else if next.token == .mark ")" && state.parentheses = 0 then refuse (raw "extra ')'")
    else if next.token == .mark "\x7d" && state.braces = 0 then
      let line := raw "line " ++ naturalText next.line ++ raw ": "
      throw ((line ++ raw "extra '\x7d'") :: (rest.take 1).map atToken)
    else if rest.isEmpty && 0 < state.braces && state.parentheses = 0 then
      throw [atToken next, missingBrace state.lines]
    else throw [atToken next]

def advance : ProgramReader Unit :=
  modify fun state => { state with tokens := state.tokens.drop 1 }

def isNext (token : Token) : ProgramReader Bool := do
  return (← peek) == some token

/-- Takes a token if it is the next one. -/
def accept (token : Token) : ProgramReader Bool := do
  if ← isNext token then
    advance
    return true
  else return false

def expect (token : Token) : ProgramReader Unit := do
  if !(← accept token) then refuseNext

def skipLines : ProgramReader Unit :=
  modify fun state =>
    { state with tokens := state.tokens.dropWhile fun next => next.token == .newline }

/-- Reads between parentheses, where print statements know no files. -/
def parenthesized {α : Type} (body : ProgramReader α) : ProgramReader α := do
  let before := (← get).isPrinting
  expect (.mark "(")
  modify fun state => { state with parentheses := state.parentheses + 1, isPrinting := false }
  let result ← body
  expect (.mark ")")
  modify fun state => { state with parentheses := state.parentheses - 1, isPrinting := before }
  return result

/-! ## Names -/

/-- Notes what a name is used for; a use that does not go with an earlier one is refused. -/
def noteUse (name : RawText) (use : NameUse) : ProgramReader Unit := do
  let state ← get
  if state.parameters.contains name then return
  match state.uses.lookup name with
  | none => set { state with uses := (name, use) :: state.uses }
  | some before =>
    if before != use then
      let kind := match before with
        | .value => "variable "
        | .table => "array "
        | .function => "function "
      refuse (raw "illegal reference to " ++ raw kind ++ name)

def takeName : ProgramReader RawText := do
  match ← peek with
  | some (.name name) | some (.function name) =>
    advance
    return name
  | _ => refuseNext

/-! ## Expressions -/

def assignment? : Token → Option (Option Arithmetic)
  | .mark "=" => some none
  | .mark "+=" => some (some .add)
  | .mark "-=" => some (some .subtract)
  | .mark "*=" => some (some .multiply)
  | .mark "/=" => some (some .divide)
  | .mark "%=" => some (some .remainder)
  | .mark "^=" => some (some .power)
  | _ => none

def comparison? : Token → Option Comparison
  | .mark "<" => some .less
  | .mark "<=" => some .lessOrEqual
  | .mark "==" => some .equal
  | .mark "!=" => some .notEqual
  | .mark ">" => some .greater
  | .mark ">=" => some .greaterOrEqual
  | _ => none

/-- Whether a value can be assigned to an expression. -/
def isTarget : Expr → Bool
  | .variable _ | .element .. | .field _ => true
  | _ => false

/-- Whether a token can begin an expression that is joined to the one before it. -/
def beginsValue : Token → Bool
  | .number _ | .text _ | .regex _ | .name _ | .function _ | .builtin _ => true
  | .keyword "getline" => true
  | .mark mark => ["$", "!", "(", "-", "+", "++", "--"].contains mark
  | _ => false

/-- The counts of arguments that a function may be given. -/
def argumentCounts (name : String) : Nat × Nat :=
  if ["atan2", "index"].contains name then (2, 2)
  else if name == "substr" || name == "split" then (2, 3)
  else if name == "sub" || name == "gsub" then (2, 3)
  else if name == "match" then (2, 2)
  else if name == "sprintf" then (1, 255)
  else if name == "rand" || name == "systime" then (0, 0)
  else if ["srand", "fflush", "length"].contains name then (0, 1)
  else (1, 1)

/-- The name at the front if a name and a token follow each other. -/
def nameBefore? (token : Token) : ProgramReader (Option RawText) := do
  match (← get).tokens with
  | first :: second :: _ =>
    match first.token with
    | .name name => return if second.token == token then some name else none
    | _ => return none
  | _ => return none

mutual

/-- An expression with all that may stand in one. -/
def expression : Nat → ProgramReader Expr
  | 0 => refuseNext
  | fuel + 1 => do
    let condition ← binary fuel 0
    if ← accept (.mark "?") then
      let whenTrue ← expression fuel
      expect (.mark ":")
      let whenFalse ← expression fuel
      return .conditional condition whenTrue whenFalse
    else return condition

/-- Expressions with the operators of a level between them; the levels are numbered from loose to
tight. -/
def binary : Nat → Nat → ProgramReader Expr
  | 0, _ => refuseNext
  | fuel + 1, level => do
    if level = 5 then joined fuel
    else binaryRest fuel level (← binary fuel (level + 1))

def binaryRest : Nat → Nat → Expr → ProgramReader Expr
  | 0, _, _ => refuseNext
  | fuel + 1, level, left => do
    match ← peek with
    | none => return left
    | some token =>
      match level, token with
      | 0, .mark "||" =>
        advance
        skipLines
        binaryRest fuel level (.either left (← binary fuel 1))
      | 1, .mark "&&" =>
        advance
        skipLines
        binaryRest fuel level (.both left (← binary fuel 2))
      | 2, .keyword "in" =>
        advance
        let table ← takeName
        noteUse table .table
        binaryRest fuel level (.member [left] table)
      | 3, .mark "~" =>
        advance
        binaryRest fuel level (.matching false left (← binary fuel 4))
      | 3, .mark "!~" =>
        advance
        binaryRest fuel level (.matching true left (← binary fuel 4))
      | 4, token =>
        match comparison? token with
        | none => return left
        | some comparison =>
          let names := comparison == .greater || comparison == .greaterOrEqual
          if names && (← get).isPrinting then return left
          else
            advance
            binaryRest fuel level (.compare comparison left (← binary fuel 5))
      | _, _ => return left

/-- Expressions one after the other, whose texts are joined, or an assignment. -/
def joined : Nat → ProgramReader Expr
  | 0 => refuseNext
  | fuel + 1 => do
    let first ← sum fuel
    match (← peek).bind assignment? with
    | some operation =>
      if isTarget first then
        advance
        return .assign operation first (← expression fuel)
      else refuseNext
    | none => joinedRest fuel first

def joinedRest : Nat → Expr → ProgramReader Expr
  | 0, _ => refuseNext
  | fuel + 1, left => do
    if ((← peek).map beginsValue).getD false then
      joinedRest fuel (.join left (← sum fuel))
    else return left

def sum : Nat → ProgramReader Expr
  | 0 => refuseNext
  | fuel + 1 => do sumRest fuel (← product fuel)

def sumRest : Nat → Expr → ProgramReader Expr
  | 0, _ => refuseNext
  | fuel + 1, left => do
    if ← accept (.mark "+") then sumRest fuel (.calculate .add left (← product fuel))
    else if ← accept (.mark "-") then sumRest fuel (.calculate .subtract left (← product fuel))
    else return left

def product : Nat → ProgramReader Expr
  | 0 => refuseNext
  | fuel + 1 => do productRest fuel (← signed fuel)

def productRest : Nat → Expr → ProgramReader Expr
  | 0, _ => refuseNext
  | fuel + 1, left => do
    if ← accept (.mark "*") then productRest fuel (.calculate .multiply left (← signed fuel))
    else if ← accept (.mark "/") then productRest fuel (.calculate .divide left (← signed fuel))
    else if ← accept (.mark "%") then productRest fuel (.calculate .remainder left (← signed fuel))
    else return left

def signed : Nat → ProgramReader Expr
  | 0 => refuseNext
  | fuel + 1 => do
    if ← accept (.mark "!") then return .not (← signed fuel)
    else if ← accept (.mark "-") then return .negate (← signed fuel)
    else if ← accept (.mark "+") then return .plain (← signed fuel)
    else commandLines fuel (← power fuel)

/-- Lines read from the command that stands before. -/
def commandLines : Nat → Expr → ProgramReader Expr
  | 0, _ => refuseNext
  | fuel + 1, command => do
    match (← get).isPrinting, (← get).tokens with
    | false, bar :: word :: _ =>
      if bar.token == .mark "|" && word.token == .keyword "getline" then
        advance
        advance
        let target ← lineTarget fuel
        commandLines fuel (.readLine (.command command) target)
      else return command
    | _, _ => return command

def power : Nat → ProgramReader Expr
  | 0 => refuseNext
  | fuel + 1 => do
    let base ← stepped fuel
    if ← accept (.mark "^") then return .calculate .power base (← exponent fuel)
    else return base

def exponent : Nat → ProgramReader Expr
  | 0 => refuseNext
  | fuel + 1 => do
    if ← accept (.mark "!") then return .not (← exponent fuel)
    else if ← accept (.mark "-") then return .negate (← exponent fuel)
    else if ← accept (.mark "+") then return .plain (← exponent fuel)
    else power fuel

/-- A simple expression, and a step up or down after it. -/
def stepped : Nat → ProgramReader Expr
  | 0 => refuseNext
  | fuel + 1 => do
    let body ← simple fuel
    if isTarget body then
      if ← accept (.mark "++") then return .step false true body
      else if ← accept (.mark "--") then return .step false false body
      else return body
    else return body

/-- What a line is read into. -/
def lineTarget : Nat → ProgramReader (Option Expr)
  | 0 => refuseNext
  | fuel + 1 => do
    match ← peek with
    | some (.name _) | some (.mark "$") => return some (← simple fuel)
    | _ => return none

/-- The index of a field. -/
def fieldIndex : Nat → ProgramReader Expr
  | 0 => refuseNext
  | fuel + 1 => do
    if ← accept (.mark "-") then return .negate (← fieldIndex fuel)
    else if ← accept (.mark "+") then return .plain (← fieldIndex fuel)
    else if ← accept (.mark "!") then return .not (← fieldIndex fuel)
    else simple fuel

def simple : Nat → ProgramReader Expr
  | 0 => refuseNext
  | fuel + 1 => do
    match ← peek with
    | some (.number value) =>
      advance
      return .number value
    | some (.text text) =>
      advance
      return .text text
    | some (.regex text) =>
      match readRecordRegex text with
      | .ok _ => advance
      | .error message => refuse message
      return .regex text
    | some (.mark "(") => grouped fuel
    | some (.mark "$") =>
      advance
      return .field (← fieldIndex fuel)
    | some (.mark "++") =>
      advance
      stepBefore fuel true
    | some (.mark "--") =>
      advance
      stepBefore fuel false
    | some (.name name) =>
      advance
      if ← isNext (.mark "[") then
        noteUse name .table
        return .element name (← indices fuel)
      else if (← isNext (.mark "(")) && ((← get).defined.lookup name).isSome then call fuel name
      else
        noteUse name .value
        return .variable name
    | some (.function name) =>
      advance
      call fuel name
    | some (.builtin name) =>
      advance
      builtinCall fuel name
    | some (.keyword "getline") =>
      advance
      let target ← lineTarget fuel
      if ← accept (.mark "<") then return .readLine (.file (← power fuel)) target
      else return .readLine .input target
    | _ => refuseNext

def stepBefore : Nat → Bool → ProgramReader Expr
  | 0, _ => refuseNext
  | fuel + 1, isUp => do
    let target ← simple fuel
    if isTarget target then return .step true isUp target else refuseNext

/-- What stands in parentheses: an expression, or several that are a key or values to print. -/
def grouped : Nat → ProgramReader Expr
  | 0 => refuseNext
  | fuel + 1 => do
    match ← parenthesized (expressions fuel) with
    | [part] => return part
    | parts =>
      if ← accept (.keyword "in") then
        let table ← takeName
        noteUse table .table
        return .member parts table
      else
        let ends := [.newline, .mark ";", .mark "\x7d", .mark ">", .mark ">>", .mark "|"]
        let state ← get
        if state.isPrinting && ((← peek).map ends.contains).getD true then return .list parts
        else refuseNext

def expressions : Nat → ProgramReader (List Expr)
  | 0 => refuseNext
  | fuel + 1 => do
    let first ← expression fuel
    if ← accept (.mark ",") then
      skipLines
      return first :: (← expressions fuel)
    else return [first]

/-- The key of an element between brackets. -/
def indices : Nat → ProgramReader (List Expr)
  | 0 => refuseNext
  | fuel + 1 => do
    expect (.mark "[")
    let before := (← get).isPrinting
    modify fun state => { state with isPrinting := false }
    let keys ← expressions fuel
    expect (.mark "]")
    modify fun state => { state with isPrinting := before }
    return keys

/-- The arguments of a call; a name alone may be that of a table. -/
def arguments : Nat → ProgramReader (List Expr)
  | 0 => refuseNext
  | fuel + 1 => do
    let argument ←
      match ← nameBefore? (.mark ","), ← nameBefore? (.mark ")") with
      | some name, _ | _, some name => do
        advance
        pure (Expr.variable name)
      | _, _ => expression fuel
    if ← accept (.mark ",") then
      skipLines
      return argument :: (← arguments fuel)
    else return [argument]

/-- The arguments in parentheses, if there are any. -/
def argumentList : Nat → ProgramReader (List Expr)
  | 0 => refuseNext
  | fuel + 1 =>
    parenthesized do
      skipLines
      if ← isNext (.mark ")") then return [] else arguments fuel

def call : Nat → RawText → ProgramReader Expr
  | 0, _ => refuseNext
  | fuel + 1, name => do
    noteUse name .function
    let given ← argumentList fuel
    let line ← currentLine
    modify fun state => { state with called := state.called ++ [(name, given.length, line)] }
    return .call name given

def builtinCall : Nat → RawText → ProgramReader Expr
  | 0, _ => refuseNext
  | fuel + 1, name => do
    if name == raw "length" && !(← isNext (.mark "(")) then return .builtin name []
    else
      let given ← argumentList fuel
      let (least, most) := argumentCounts (String.ofList name)
      if given.length < least || most < given.length then
        refuse (raw "wrong number of arguments in call to " ++ name)
      return .builtin name given

end

/-! ## Statements -/

/-- Ends a simple statement: by a separator, or in front of a closing brace. -/
def endStatement : ProgramReader Unit := do
  match ← peek with
  | some .newline | some (.mark ";") =>
    advance
    skipLines
  | some (.mark "\x7d") => if (← get).braces = 0 then refuseNext
  | _ => refuseNext

/-- Whether a simple statement ends here. -/
def atEnd : ProgramReader Bool := do
  match ← peek with
  | some .newline | some (.mark ";") | some (.mark "\x7d") | none => return true
  | _ => return false

/-- Reads what a print statement prints, and where to. -/
def printed (fuel : Nat) : ProgramReader (List Expr × Option (OutputKind × Expr)) := do
  modify fun state => { state with isPrinting := true }
  let startsTarget := [Token.mark ">", .mark ">>", .mark "|"]
  let parts ←
    if (← atEnd) || ((← peek).map startsTarget.contains).getD false then pure []
    else expressions fuel
  let parts := match parts with
    | [.list parts] => parts
    | parts => parts
  modify fun state => { state with isPrinting := false }
  if ← isNext (.mark ">=") then refuse (raw "syntax error at or near =")
  let kind ←
    if ← accept (.mark ">") then pure (some OutputKind.file)
    else if ← accept (.mark ">>") then pure (some .append)
    else if ← accept (.mark "|") then pure (some .command)
    else pure none
  match kind with
  | none => return (parts, none)
  | some kind => return (parts, some (kind, ← expression fuel))

/-- A statement that may also stand in the head of a loop. -/
def expressionStatement (fuel : Nat) : ProgramReader Stmt := do
  return .expression (← expression fuel)

/-- Reads the body of a loop. -/
def inLoop {α : Type} (body : ProgramReader α) : ProgramReader α := do
  modify fun state => { state with loops := state.loops + 1 }
  let result ← body
  modify fun state => { state with loops := state.loops - 1 }
  return result

/-- Whether the head of a loop goes through the keys of a table, and then the two names. -/
def keysHead? : ProgramReader (Option (RawText × RawText)) := do
  let head : List Token := ((← get).tokens.take 5).map (·.token)
  match head with
  | [.mark "(", .name target, .keyword "in", .name table, .mark ")"] =>
    modify fun state => { state with tokens := state.tokens.drop 5 }
    noteUse target .value
    noteUse table .table
    return some (target, table)
  | _ => return none

mutual

def statement : Nat → ProgramReader Stmt
  | 0 => refuseNext
  | fuel + 1 => do
    match ← peek with
    | some (.mark "\x7b") => return .block (← block fuel)
    | some .newline | some (.mark ";") | some (.mark "\x7d") =>
      endStatement
      return .block []
    | some (.keyword "if") =>
      advance
      let condition ← parenthesized (expression fuel)
      skipLines
      let whenTrue ← statement fuel
      if ← accept (.keyword "else") then
        skipLines
        return .ifElse condition whenTrue (some (← statement fuel))
      else return .ifElse condition whenTrue none
    | some (.keyword "while") =>
      advance
      let condition ← parenthesized (expression fuel)
      skipLines
      return .whileLoop condition (← inLoop (statement fuel))
    | some (.keyword "do") =>
      advance
      skipLines
      let body ← inLoop (statement fuel)
      expect (.keyword "while")
      let condition ← parenthesized (expression fuel)
      endStatement
      return .doLoop body condition
    | some (.keyword "for") =>
      advance
      match ← keysHead? with
      | some (target, table) =>
        skipLines
        return .forKeys target table (← inLoop (statement fuel))
      | none =>
        let (first, condition, step) ← parenthesized (loopHead fuel)
        skipLines
        return .forLoop first condition step (← inLoop (statement fuel))
    | _ =>
      let simple ← simpleStatement fuel
      endStatement
      return simple

/-- The statements between braces. -/
def block : Nat → ProgramReader (List Stmt)
  | 0 => refuseNext
  | fuel + 1 => do
    expect (.mark "\x7b")
    modify fun state => { state with braces := state.braces + 1 }
    skipLines
    let body ← statements fuel
    expect (.mark "\x7d")
    modify fun state => { state with braces := state.braces - 1 }
    skipLines
    return body

def statements : Nat → ProgramReader (List Stmt)
  | 0 => refuseNext
  | fuel + 1 => do
    if ← isNext (.mark "\x7d") then return []
    let first ← statement fuel
    return first :: (← statements fuel)

/-- The three parts of a loop's head. -/
def loopHead : Nat → ProgramReader (Option Stmt × Option Expr × Option Stmt)
  | 0 => refuseNext
  | fuel + 1 => do
    let first ← if ← isNext (.mark ";") then pure none else some <$> expressionStatement fuel
    expect (.mark ";")
    skipLines
    let condition ← if ← isNext (.mark ";") then pure none else some <$> expression fuel
    expect (.mark ";")
    skipLines
    let step ← if ← isNext (.mark ")") then pure none else some <$> expressionStatement fuel
    return (first, condition, step)

def simpleStatement : Nat → ProgramReader Stmt
  | 0 => refuseNext
  | fuel + 1 => do
    match ← peek with
    | some (.keyword "print") =>
      advance
      let (parts, target) ← printed fuel
      return .print parts target
    | some (.keyword "printf") =>
      advance
      let (parts, target) ← printed fuel
      if parts.isEmpty then refuse (raw "no arguments in call to printf")
      return .format parts target
    | some (.keyword "next") =>
      if !(← get).takesRecords then refuse (raw "improper use of next")
      advance
      return .next
    | some (.keyword "nextfile") =>
      if !(← get).takesRecords then refuse (raw "improper use of nextfile")
      advance
      return .nextFile
    | some (.keyword "break") =>
      if (← get).loops = 0 then refuse (raw "break statement outside of loop")
      advance
      return .break
    | some (.keyword "continue") =>
      if (← get).loops = 0 then refuse (raw "continue statement outside of loop")
      advance
      return .continue
    | some (.keyword "exit") =>
      advance
      return .leave (← if ← atEnd then pure none else some <$> expression fuel)
    | some (.keyword "return") =>
      if !(← get).inFunction then refuse (raw "return outside function body")
      advance
      return .return (← if ← atEnd then pure none else some <$> expression fuel)
    | some (.keyword "delete") =>
      advance
      let table ← takeName
      noteUse table .table
      if ← isNext (.mark "[") then return .delete table (← indices fuel)
      else return .delete table []
    | _ => expressionStatement fuel

end

/-! ## Rules -/

def parameterNames : Nat → ProgramReader (List RawText)
  | 0 => refuseNext
  | fuel + 1 => do
    if ← isNext (.mark ")") then return []
    let name ← takeName
    if ← accept (.mark ",") then
      skipLines
      return name :: (← parameterNames fuel)
    else return [name]

def function (fuel : Nat) : ProgramReader Function := do
  expect (.keyword "function")
  let name ← takeName
  noteUse name .function
  let parameters ← parenthesized (parameterNames fuel)
  modify fun state =>
    { state with
      parameters := parameters, inFunction := true, takesRecords := false
      defined := (name, parameters.length) :: state.defined }
  skipLines
  let body ← block fuel
  modify fun state => { state with parameters := [], inFunction := false }
  return { name := name, parameters := parameters, body := .block body }

/-- Reads the action of a rule. -/
def action (fuel : Nat) (takesRecords : Bool) : ProgramReader Stmt := do
  modify fun state => { state with takesRecords := takesRecords }
  return .block (← block fuel)

/-- A rule that begins with a condition, or with the first one of a range. -/
def conditionRule (fuel : Nat) : ProgramReader Rule := do
  let first ← expression fuel
  let pattern ←
    if ← accept (.mark ",") then do
      skipLines
      pure (Pattern.range first (← expression fuel))
    else pure (Pattern.condition first)
  match ← peek with
  | some (.mark "\x7b") => return ⟨pattern, some (← action fuel true)⟩
  | some .newline | some (.mark ";") =>
    advance
    return ⟨pattern, none⟩
  | none => return ⟨pattern, none⟩
  | _ => refuseNext

def rule (fuel : Nat) : ProgramReader Rule := do
  match ← peek with
  | some (.keyword "BEGIN") =>
    advance
    return ⟨.begin, some (← action fuel false)⟩
  | some (.keyword "END") =>
    advance
    return ⟨.finish, some (← action fuel false)⟩
  | some (.mark "\x7b") => return ⟨.always, some (← action fuel true)⟩
  | _ => conditionRule fuel

/-- Reads rules and functions up to the end; a semicolon may stand behind each. -/
def program : Nat → Program → ProgramReader Program
  | 0, _ => refuseNext
  | fuel + 1, read => do
    skipLines
    match ← peek with
    | none => return read
    | some (.keyword "function") =>
      let next ← function fuel
      let _ ← accept (.mark ";")
      program fuel { read with functions := read.functions ++ [next] }
    | some _ =>
      let next ← rule fuel
      if next.action.isSome then let _ ← accept (.mark ";")
      program fuel { read with rules := read.rules ++ [next] }

end ProgramReader

/-- Reads the text of a program, or tells what is wrong with it. -/
def readProgram (text : RawText) : Except (List RawText) Program := do
  let text := if text.getLast? == some '\n' then text else text ++ ['\n']
  let tokens := (← (tokensFrom (text.length + 1) 1 [] text).mapError fun message => [message]).reverse
  let lines := (text.filter (· == '\n')).length
  let fuel := 40 * (text.length + 10)
  let (program, state) ← (ProgramReader.program fuel {}).run { tokens := tokens, lines := lines }
  let messages := state.called.filterMap fun (name, given, line) =>
    match state.defined.lookup name with
    | none =>
      some (raw "line " ++ naturalText (lines + 1) ++ raw ": function " ++ name ++
        raw " never defined")
    | some most =>
      if given ≤ most then none
      else some (raw "line " ++ naturalText line ++ raw ": too many arguments in call to " ++ name)
  if messages.isEmpty then return program else throw (messages.take 1)

end KeyJoin.Tools.Records
