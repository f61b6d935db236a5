import KeyJoin.Host.Conversion
import KeyJoin.Tools.Options
import KeyJoin.Tools.RegexSyntax

/-!
# Calculating with words

A tool whose arguments are the words of one expression over whole numbers and
texts.  Operators bind in six levels; a part whose value cannot matter is read
but not calculated.  The status tells whether the result is empty or zero.
-/

namespace KeyJoin.Tools

open Tool

/-- The words left, the word before them, and the state of reading an expression that may fail with
a message. -/
structure CalculationState where
  words : List RawText
  last : RawText := []

abbrev Calculation := StateT CalculationState (Except RawText)

namespace Calculation

def refuse {α : Type} (text : RawText) : Calculation α :=
  throw text

/-- Takes the next word if it is the given one. -/
def accepts (word : String) : Calculation Bool := do
  match (← get).words with
  | next :: rest =>
    if next == word.toList then
      set { words := rest, last := next : CalculationState }
      return true
    else return false
  | [] => return false

/-- The first of several words that comes next. -/
def acceptsOne (words : List String) : Calculation (Option String) := do
  match (← get).words with
  | next :: _ =>
    match words.find? fun word => word.toList == next with
    | some word =>
      let _ ← accepts word
      return some word
    | none => return none
  | [] => return none

def requireWord : Calculation Unit := do
  let state ← get
  if state.words.isEmpty then
    refuse (raw "syntax error: missing argument after " ++ quoted state.last)

def take : Calculation RawText := do
  requireWord
  match (← get).words with
  | word :: rest =>
    set { words := rest, last := word : CalculationState }
    return word
  | [] => return []

/-- Whether a value counts as empty or zero. -/
def isNull (value : RawText) : Bool :=
  let digits := if value.head? == some '-' then value.drop 1 else value
  value.isEmpty || (!digits.isEmpty && digits.all (· == '0'))

def number? (value : RawText) : Option Int :=
  match value with
  | '-' :: digits => (natural? digits).map fun n => -(n : Int)
  | digits => (natural? digits).map Int.ofNat

/-- The text of the first group of a basic expression that matches at the beginning of a value, or
the length of the match if there is no group. -/
def matchStart (value pattern : RawText) : Calculation RawText := do
  match Regex.read {} pattern with
  | .error fault => refuse (raw fault.description)
  | .ok (regex, groups) =>
    let subject := Subject.ofText value
    match regex.matchAt? subject 0 with
    | none => return if groups = 0 then ['0'] else []
    | some found =>
      if groups = 0 then return naturalText (found.last - found.first)
      else return found.groupText subject 1

def boolText (b : Bool) : RawText :=
  if b then ['1'] else ['0']

def compareValues (operator : String) (a b : RawText) : Bool :=
  let order :=
    match number? a, number? b with
    | some x, some y => compare x y
    | _, _ => compareRaw a b
  match operator with
  | "<" => order == .lt
  | "<=" => order != .gt
  | "=" | "==" => order == .eq
  | "!=" => order != .eq
  | ">=" => order != .lt
  | _ => order == .gt

def arithmetic (operator : String) (a b : RawText) : Calculation RawText := do
  match number? a, number? b with
  | some x, some y =>
    match operator with
    | "+" => return integerText (x + y)
    | "-" => return integerText (x - y)
    | "*" => return integerText (x * y)
    | _ =>
      if y == 0 then refuse (raw "division by zero")
      return integerText (if operator == "/" then x.tdiv y else x.tmod y)
  | _, _ => refuse (raw "non-integer argument")

/-- Operators that are read from left to right over a level of operands. -/
def level (operators : List String) (operand : Calculation RawText)
    (apply : String → RawText → RawText → Calculation RawText) :
    Nat → RawText → Calculation RawText
  | 0, value => return value
  | fuel + 1, value => do
    match ← acceptsOne operators with
    | none => return value
    | some operator =>
      let other ← operand
      level operators operand apply fuel (← apply operator value other)

def onlyIf (isNeeded : Bool) (calculate : Calculation RawText) : Calculation RawText :=
  if isNeeded then calculate else return []

mutual

/-- A value of the lowest level; `isNeeded` says whether it is calculated. -/
def disjunction : Nat → Bool → Calculation RawText
  | 0, _ => return []
  | fuel + 1, isNeeded => do disjunctionFrom fuel isNeeded (← conjunction fuel isNeeded)

def disjunctionFrom : Nat → Bool → RawText → Calculation RawText
  | 0, _, value => return value
  | fuel + 1, isNeeded, value => do
    if ← accepts "|" then
      let other ← conjunction fuel (isNeeded && isNull value)
      let value := if !isNull value then value else if isNull other then ['0'] else other
      disjunctionFrom fuel isNeeded value
    else return value

def conjunction : Nat → Bool → Calculation RawText
  | 0, _ => return []
  | fuel + 1, isNeeded => do conjunctionFrom fuel isNeeded (← comparison fuel isNeeded)

def conjunctionFrom : Nat → Bool → RawText → Calculation RawText
  | 0, _, value => return value
  | fuel + 1, isNeeded, value => do
    if ← accepts "&" then
      let other ← comparison fuel (isNeeded && !isNull value)
      conjunctionFrom fuel isNeeded (if isNull value || isNull other then ['0'] else value)
    else return value

def comparison : Nat → Bool → Calculation RawText
  | 0, _ => return []
  | fuel + 1, isNeeded => do
    let first ← sum fuel isNeeded
    level ["<", "<=", "=", "==", "!=", ">=", ">"] (sum fuel isNeeded)
      (fun operator a b => return boolText (compareValues operator a b)) fuel first

def sum : Nat → Bool → Calculation RawText
  | 0, _ => return []
  | fuel + 1, isNeeded => do
    let first ← product fuel isNeeded
    level ["+", "-"] (product fuel isNeeded)
      (fun operator a b => onlyIf isNeeded (arithmetic operator a b)) fuel first

def product : Nat → Bool → Calculation RawText
  | 0, _ => return []
  | fuel + 1, isNeeded => do
    let first ← matching fuel isNeeded
    level ["*", "/", "%"] (matching fuel isNeeded)
      (fun operator a b => onlyIf isNeeded (arithmetic operator a b)) fuel first

def matching : Nat → Bool → Calculation RawText
  | 0, _ => return []
  | fuel + 1, isNeeded => do
    let first ← named fuel isNeeded
    level [":"] (named fuel isNeeded)
      (fun _ a b => onlyIf isNeeded (matchStart a b)) fuel first

/-- A value of a named function, a quoted word, or a single word. -/
def named : Nat → Bool → Calculation RawText
  | 0, _ => return []
  | fuel + 1, isNeeded => do
    requireWord
    match ← acceptsOne ["+", "length", "match", "index", "substr"] with
    | some "+" => take
    | some "length" => return naturalText (← named fuel isNeeded).length
    | some "match" =>
      let value ← named fuel isNeeded
      let pattern ← named fuel isNeeded
      onlyIf isNeeded (matchStart value pattern)
    | some "index" =>
      let value ← named fuel isNeeded
      let characters ← named fuel isNeeded
      return naturalText ((value.findIdx? characters.contains).map (· + 1) |>.getD 0)
    | some _ =>
      let value ← named fuel isNeeded
      let first := number? (← named fuel isNeeded)
      let count := number? (← named fuel isNeeded)
      match first, count with
      | some (.ofNat (i + 1)), some (.ofNat n) => return (value.drop i).take n
      | _, _ => return []
    | none => single fuel isNeeded

def single : Nat → Bool → Calculation RawText
  | 0, _ => return []
  | fuel + 1, isNeeded => do
    requireWord
    if ← accepts "(" then
      let value ← disjunction fuel isNeeded
      let state ← get
      match state.words with
      | [] => refuse (raw "syntax error: expecting ')' after " ++ quoted state.last)
      | word :: _ =>
        if ← accepts ")" then return value
        else refuse (raw "syntax error: expecting ')' instead of " ++ quoted word)
    else if ← accepts ")" then refuse (raw "syntax error: unexpected ')'")
    else take

end

/-- The value of all words. -/
def whole : Calculation RawText := do
  let value ← disjunction (20 * ((← get).words.length + 1)) true
  match (← get).words with
  | [] => return value
  | word :: _ => refuse (raw "syntax error: unexpected argument " ++ quoted word)

end Calculation

def runCalculation (arguments : List RawText) : Tool Unit := do
  let words := if arguments.head? == some ['-', '-'] then arguments.drop 1 else arguments
  if words.isEmpty then missingOperand 2
  match Calculation.whole.run { words := words } with
  | .error message => fail 2 message
  | .ok (value, _) =>
    putLine value
    if Calculation.isNull value then setStatus 1

end KeyJoin.Tools
