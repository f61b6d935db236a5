import KeyJoin.Host.Conversion

/-!
# Arithmetic of the shell

Numbers are whole and have sixty-four bits; they are written in decimal, octal
or hexadecimal.  Expressions combine them by operators, of which those of a
lower level bind more tightly, and may assign to variables.  An operand whose
value does not matter is read but not evaluated.
-/

namespace KeyJoin.Shell

def wrapInteger (n : Int) : Int :=
  Int.bmod n integerModulus

/-- The nearest number of sixty-four bits. -/
def clampInteger (n : Int) : Int :=
  max smallestInteger (min largestInteger n)

/-- The digits of a number at the front of a text with their base, and what follows them.  A
leading zero means octal and a leading zero with an x hexadecimal. -/
def readDigits (text : RawText) : Nat × RawText × RawText :=
  let take := fun (base : Nat) (text : RawText) =>
    let digits := text.takeWhile fun c => decide (digitValue c < base)
    (base, digits, text.drop digits.length)
  match text with
  | '0' :: x :: d :: rest =>
    if (x == 'x' || x == 'X') && isHexDigit d then take 16 (d :: rest) else take 8 text
  | '0' :: _ => take 8 text
  | _ => take 10 text

/-- Reads a number with an optional sign after blanks, and gives what follows it; nothing if no
digit is found. -/
def readInteger? (text : RawText) : Option (Int × RawText) :=
  let text := text.dropWhile isSpaceByte
  let (negative, text) :=
    match text with
    | '-' :: rest => (true, rest)
    | '+' :: rest => (false, rest)
    | _ => (false, text)
  let (base, digits, rest) := readDigits text
  if digits.isEmpty then none
  else
    let value : Int := readInBase base digits
    some (if negative then -value else value, rest)

/-- The number that the value of a variable is; a blank one is zero. -/
def numberOfValue? (text : RawText) : Option Int :=
  match readInteger? text with
  | some (value, rest) =>
    if rest.all isSpaceByte && smallestInteger ≤ value && value ≤ largestInteger then some value
    else none
  | none => if text.all isSpaceByte then some 0 else none

/-- Reads a decimal number with an optional sign and blanks around it. -/
def decimal? (text : RawText) : Option Int :=
  let text := text.dropWhile isSpaceByte
  let (negative, text) :=
    match text with
    | '-' :: rest => (true, rest)
    | '+' :: rest => (false, rest)
    | _ => (false, text)
  let digits := text.takeWhile Char.isDigit
  if digits.isEmpty || !(text.drop digits.length).all isSpaceByte then none
  else
    let value : Int := readInBase 10 digits
    some (if negative then -value else value)

inductive ArithmeticToken
  | number (value : Int)
  | name (text : RawText)
  | operator (text : String)
  | bad
  deriving DecidableEq, Repr

def arithmeticOperators : List String :=
  ["<<=", ">>=", "<<", ">>", "<=", ">=", "==", "!=", "&&", "||", "+=", "-=", "*=", "/=", "%=",
    "&=", "|=", "^=", "+", "-", "*", "/", "%", "<", ">", "&", "|", "^", "!", "~", "(", ")", "?",
    ":", "="]

def arithmeticTokens : Nat → RawText → List ArithmeticToken
  | 0, _ => []
  | _, [] => []
  | fuel + 1, c :: rest =>
    if c == ' ' || c == '\t' || c == '\n' then arithmeticTokens fuel rest
    else if c.isDigit then
      let (base, digits, rest) := readDigits (c :: rest)
      .number (clampInteger (readInBase base digits)) :: arithmeticTokens fuel rest
    else if isNameStart c then
      .name (c :: rest.takeWhile isNameCharacter) ::
        arithmeticTokens fuel (rest.dropWhile isNameCharacter)
    else
      match arithmeticOperators.find? fun mark => mark.toList.isPrefixOf (c :: rest) with
      | some mark => .operator mark :: arithmeticTokens fuel ((c :: rest).drop mark.length)
      | none => [.bad]

/-- Why an expression has no value. -/
inductive ArithmeticFault
  | illegalNumber (text : RawText)
  | divisionByZero
  | overflow
  | expectingPrimary
  | expectingBracket
  | expectingColon
  | expectingEnd

/-- What is said of an expression that has no value. -/
def ArithmeticFault.message (expression : RawText) : ArithmeticFault → RawText
  | illegalNumber text => raw "Illegal number: " ++ text
  | divisionByZero => within "division by zero"
  | overflow => within "overflow"
  | expectingPrimary => within "expecting primary"
  | expectingBracket => within "expecting ')'"
  | expectingColon => within "expecting ':'"
  | expectingEnd => within "expecting EOF"
where
  within (text : String) : RawText :=
    raw ("arithmetic expression: " ++ text ++ ": \"") ++ expression ++ ['"']

def truthValue (p : Bool) : Int :=
  if p then 1 else 0

def applyOperator (mark : String) (a b : Int) : Except ArithmeticFault Int :=
  match mark with
  | "|" => pure (a.toInt64 ||| b.toInt64).toInt
  | "^" => pure (a.toInt64 ^^^ b.toInt64).toInt
  | "&" => pure (a.toInt64 &&& b.toInt64).toInt
  | "==" => pure (truthValue (a == b))
  | "!=" => pure (truthValue (a != b))
  | "<=" => pure (truthValue (decide (a ≤ b)))
  | ">=" => pure (truthValue (decide (b ≤ a)))
  | "<" => pure (truthValue (decide (a < b)))
  | ">" => pure (truthValue (decide (b < a)))
  | "<<" => pure (a.toInt64 <<< b.toInt64).toInt
  | ">>" => pure (a.toInt64 >>> b.toInt64).toInt
  | "+" => pure (wrapInteger (a + b))
  | "-" => pure (wrapInteger (a - b))
  | "*" => pure (wrapInteger (a * b))
  | "/" =>
    if b = 0 then throw .divisionByZero
    else if a = smallestInteger ∧ b = -1 then throw .overflow
    else pure (a.tdiv b)
  | "%" =>
    if b = 0 then throw .divisionByZero
    else if a = smallestInteger ∧ b = -1 then throw .overflow
    else pure (a.tmod b)
  | _ => throw .expectingPrimary

def operatorLevel? : String → Option Nat
  | "*" | "/" | "%" => some 0
  | "+" | "-" => some 1
  | "<<" | ">>" => some 2
  | "<" | "<=" | ">" | ">=" => some 3
  | "==" | "!=" => some 4
  | "&" => some 5
  | "^" => some 6
  | "|" => some 7
  | _ => none

/-- The operator that an assignment applies to the old value first, if it is an assignment. -/
def assignmentOperator? : String → Option (Option String)
  | "=" => some none
  | "+=" => some (some "+")
  | "-=" => some (some "-")
  | "*=" => some (some "*")
  | "/=" => some (some "/")
  | "%=" => some (some "%")
  | "&=" => some (some "&")
  | "|=" => some (some "|")
  | "^=" => some (some "^")
  | "<<=" => some (some "<<")
  | ">>=" => some (some ">>")
  | _ => none

/-- The tokens left and the values assigned so far, the latest first. -/
structure ArithmeticState where
  tokens : List ArithmeticToken
  assigned : List (RawText × Int) := []

abbrev Arithmetic := StateT ArithmeticState (Except ArithmeticFault)

namespace Arithmetic

def nextIs (mark : String) : Arithmetic Bool := do
  return (← get).tokens.head? == some (.operator mark)

def skip : Arithmetic Unit :=
  modify fun state => { state with tokens := state.tokens.drop 1 }

def lookup (values : RawText → Option RawText) (name : RawText) : Arithmetic Int := do
  match (← get).assigned.lookup name with
  | some value => return value
  | none =>
    match values name with
    | none => return 0
    | some text =>
      match numberOfValue? text with
      | some value => return value
      | none => throw (.illegalNumber text)

mutual

/-- An operand; without `evaluates` a variable counts as zero. -/
def operand (values : RawText → Option RawText) : Nat → Bool → Arithmetic Int
  | 0, _ => throw .expectingPrimary
  | fuel + 1, evaluates => do
    match (← get).tokens with
    | .number value :: _ =>
      skip
      return value
    | .name text :: _ =>
      skip
      if evaluates then lookup values text else return 0
    | .operator "(" :: _ =>
      skip
      let value ← assignment values fuel evaluates
      if !(← nextIs ")") then throw .expectingBracket
      skip
      return value
    | .operator "+" :: _ =>
      skip
      operand values fuel evaluates
    | .operator "-" :: _ =>
      skip
      return wrapInteger (-(← operand values fuel evaluates))
    | .operator "!" :: _ =>
      skip
      return truthValue ((← operand values fuel evaluates) == 0)
    | .operator "~" :: _ =>
      skip
      return -(← operand values fuel evaluates) - 1
    | _ => throw .expectingPrimary

/-- Goes on from a value with the operators that bind more tightly than `level`. -/
def operation (values : RawText → Option RawText) : Nat → Bool → Nat → Int → Arithmetic Int
  | 0, _, _, _ => throw .expectingPrimary
  | fuel + 1, evaluates, level, value => do
    match (← get).tokens with
    | .operator mark :: _ =>
      match operatorLevel? mark with
      | none => return value
      | some own =>
        if own < level then
          skip
          let first ← operand values fuel evaluates
          let other ← operation values fuel evaluates own first
          let result ← if evaluates then (applyOperator mark value other : Except _ _) else pure other
          operation values fuel evaluates level result
        else return value
    | _ => return value

def conjunction (values : RawText → Option RawText) : Nat → Bool → Arithmetic Int
  | 0, _ => throw .expectingPrimary
  | fuel + 1, evaluates => do
    let value ← operation values fuel evaluates 8 (← operand values fuel evaluates)
    if ← nextIs "&&" then
      skip
      let other ← conjunction values fuel (evaluates && value != 0)
      return truthValue (value != 0 && other != 0)
    else return value

def disjunction (values : RawText → Option RawText) : Nat → Bool → Arithmetic Int
  | 0, _ => throw .expectingPrimary
  | fuel + 1, evaluates => do
    let value ← conjunction values fuel evaluates
    if ← nextIs "||" then
      skip
      let other ← disjunction values fuel (evaluates && value == 0)
      return truthValue (value != 0 || other != 0)
    else return value

def choice (values : RawText → Option RawText) : Nat → Bool → Arithmetic Int
  | 0, _ => throw .expectingPrimary
  | fuel + 1, evaluates => do
    let condition ← disjunction values fuel evaluates
    if ← nextIs "?" then
      skip
      let first ← assignment values fuel (evaluates && condition != 0)
      if !(← nextIs ":") then throw .expectingColon
      skip
      let second ← choice values fuel (evaluates && condition == 0)
      return if condition != 0 then first else second
    else return condition

def assignment (values : RawText → Option RawText) : Nat → Bool → Arithmetic Int
  | 0, _ => throw .expectingPrimary
  | fuel + 1, evaluates => do
    match (← get).tokens with
    | .name name :: .operator mark :: _ =>
      match assignmentOperator? mark with
      | none => choice values fuel evaluates
      | some operator =>
        skip
        skip
        let value ← assignment values fuel evaluates
        if !evaluates then return value
        let value ←
          match operator with
          | none => pure value
          | some operator => do
            let old ← lookup values name
            (applyOperator operator old value : Except _ _)
        modify fun state => { state with assigned := (name, value) :: state.assigned }
        return value
    | _ => choice values fuel evaluates

end

end Arithmetic

/-- The value of an expression and the values it assigns, in order. -/
def evaluateExpression (values : RawText → Option RawText) (expression : RawText) :
    Except ArithmeticFault (Int × List (RawText × Int)) := do
  let tokens := arithmeticTokens (expression.length + 1) expression
  let (value, state) ←
    (Arithmetic.assignment values (16 * tokens.length + 32) true).run { tokens := tokens }
  if state.tokens.isEmpty then return (value, state.assigned.reverse) else throw .expectingEnd

end KeyJoin.Shell
