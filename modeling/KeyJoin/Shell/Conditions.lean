import KeyJoin.Shell.Arithmetic
import KeyJoin.Shell.State

/-!
# Conditions

One command of the shell answers conditions on texts, numbers and files by its
status.  A condition is read from left to right; what a word means depends on
the words around it, so that an operator may also stand as an operand.
-/

namespace KeyJoin.Shell

inductive ConditionToken
  | finished
  | operand
  | unary (letter : Char)
  | binary (operator : String)
  | conjunction
  | disjunction
  | negation
  | openBracket
  | closeBracket
  deriving DecidableEq

def unaryLetters : List Char :=
  ['r', 'w', 'x', 'e', 'f', 'd', 'c', 'b', 'p', 'u', 'g', 'k', 's', 't', 'z', 'n', 'h', 'O', 'G',
    'L', 'S']

def binaryOperators : List String :=
  ["=", "!=", "<", ">", "-eq", "-ne", "-ge", "-gt", "-le", "-lt", "-nt", "-ot", "-ef"]

/-- The operator that a word is if it stands where one can. -/
def conditionOperator? (word : RawText) : Option ConditionToken :=
  match word with
  | ['!'] => some .negation
  | ['('] => some .openBracket
  | [')'] => some .closeBracket
  | ['-', 'a'] => some .conjunction
  | ['-', 'o'] => some .disjunction
  | ['-', c] => if unaryLetters.contains c then some (.unary c) else none
  | word => (binaryOperators.find? fun mark => mark.toList == word).map .binary

def isBinaryWord (word : RawText) : Bool :=
  match conditionOperator? word with
  | some (.binary _) => true
  | _ => false

/-- Whether an operator is an operand, because of the words that follow it. -/
def standsAlone : List RawText → Bool
  | [] => true
  | [_] => false
  | word :: _ => isBinaryWord word

def conditionToken : List RawText → ConditionToken
  | [] => .finished
  | word :: rest =>
    match conditionOperator? word with
    | none => .operand
    | some (.unary c) => if standsAlone rest then .operand else .unary c
    | some .openBracket => if rest.isEmpty then .operand else .openBracket
    | some token => token

/-- Conditions are read from the words that are left. -/
abbrev Conditions := StateT (List RawText) Sh

namespace Conditions

def failWith {α : Type} (text : RawText) : Conditions α :=
  fun _ => Sh.fail text

def number (word : RawText) : Conditions Int := do
  match (decimal? word).filter fun n => smallestInteger ≤ n && n ≤ largestInteger with
  | some n => return n
  | none => failWith (raw "Illegal number: " ++ word)

def statusOf? (path : RawText) (follows : Bool) : Conditions (Option FileStatus) := do
  return (← (ask (.statusOf path follows) : Sh _)).toOption

def holdsForFile (letter : Char) (path : RawText) : Conditions Bool := do
  match ← statusOf? path (letter != 'h' && letter != 'L') with
  | none => return false
  | some status =>
    let bit := fun (mask : Nat) => status.permissions &&& mask != 0
    match letter with
    | 'x' => return status.kind == .directory || bit 0o111
    | 'f' => return status.kind == .regular
    | 'd' => return status.kind == .directory
    | 'c' => return status.kind == .device
    | 'p' => return status.kind == .fifo
    | 'h' | 'L' => return status.kind == .link
    | 's' => return 0 < status.size
    | 'u' => return bit 0o4000
    | 'g' => return bit 0o2000
    | 'k' => return bit 0o1000
    | 'b' | 'S' => return false
    | _ => return true

def holdsForOne (letter : Char) (word : RawText) : Conditions Bool := do
  match letter with
  | 'z' => return word.isEmpty
  | 'n' => return !word.isEmpty
  | 't' =>
    let _ ← number word
    return false
  | letter => holdsForFile letter word

def compareFiles (p : FileStatus → FileStatus → Bool) (a b : RawText) : Conditions Bool := do
  match ← statusOf? a true, ← statusOf? b true with
  | some a, some b => return p a b
  | _, _ => return false

def compareNumbers (p : Int → Int → Bool) (a b : RawText) : Conditions Bool := do
  let a ← number a
  return p a (← number b)

def holdsForTwo (operator : String) (a b : RawText) : Conditions Bool :=
  match operator with
  | "=" => return a == b
  | "!=" => return a != b
  | "<" => return compareRaw a b == .lt
  | ">" => return compareRaw a b == .gt
  | "-eq" => compareNumbers (fun a b => a == b) a b
  | "-ne" => compareNumbers (fun a b => a != b) a b
  | "-ge" => compareNumbers (fun a b => decide (b ≤ a)) a b
  | "-gt" => compareNumbers (fun a b => decide (b < a)) a b
  | "-le" => compareNumbers (fun a b => decide (a ≤ b)) a b
  | "-lt" => compareNumbers (fun a b => decide (a < b)) a b
  | "-nt" => compareFiles (fun a b => decide (b.modified < a.modified)) a b
  | "-ot" => compareFiles (fun a b => decide (a.modified < b.modified)) a b
  | _ => compareFiles (fun a b => a.node == b.node) a b

def skip (n : Nat) : Conditions Unit :=
  modify (·.drop n)

mutual

def disjunction : Nat → ConditionToken → Conditions Bool
  | 0, _ => return false
  | fuel + 1, token => do
    let first ← conjunction fuel token
    if conditionToken ((← get).drop 1) == .disjunction then
      skip 2
      let rest ← disjunction fuel (conditionToken (← get))
      return first || rest
    else return first

def conjunction : Nat → ConditionToken → Conditions Bool
  | 0, _ => return false
  | fuel + 1, token => do
    let first ← negation fuel token
    if conditionToken ((← get).drop 1) == .conjunction then
      skip 2
      let rest ← conjunction fuel (conditionToken (← get))
      return first && rest
    else return first

def negation : Nat → ConditionToken → Conditions Bool
  | 0, _ => return false
  | fuel + 1, token => do
    if token == .negation then
      let next := conditionToken ((← get).drop 1)
      if next != .finished then skip 1
      return !(← negation fuel next)
    else primary fuel token

def primary : Nat → ConditionToken → Conditions Bool
  | 0, _ => return false
  | fuel + 1, token => do
    match token with
    | .finished => return false
    | .openBracket =>
      skip 1
      let next := conditionToken (← get)
      if next == .closeBracket then return false
      let value ← disjunction fuel next
      skip 1
      if conditionToken (← get) != .closeBracket then failWith (raw "closing paren expected")
      return value
    | .unary letter =>
      match (← get) with
      | _ :: word :: _ =>
        skip 1
        holdsForOne letter word
      | _ => failWith (['-', letter] ++ raw ": argument expected")
    | _ =>
      match (← get) with
      | word :: rest =>
        match conditionToken rest with
        | .binary operator =>
          match rest with
          | _ :: other :: _ =>
            skip 2
            holdsForTwo operator word other
          | _ => failWith (raw operator ++ raw ": argument expected")
        | _ => return !word.isEmpty
      | [] => return false

end

end Conditions

/-- Reads all words as one condition whose first token is known. -/
def wholeCondition (token : ConditionToken) (words : List RawText) : Sh Bool := do
  let (value, rest) ← (Conditions.disjunction (4 * words.length + 8) token).run words
  match rest with
  | word :: _ :: _ => Sh.fail (if word.isEmpty then raw "unexpected operator"
      else word ++ raw ": unexpected operator")
  | _ => return value

/-- Whether a condition holds; three and four words are read by rules of their own. -/
def conditionHolds : Nat → List RawText → Sh Bool
  | 0, _ => return false
  | fuel + 1, words => do
    let plain := fun (words : List RawText) => wholeCondition (conditionToken words) words
    let bracketed : Sh Bool :=
      if words.head? == some ['('] && words.getLast? == some [')'] then
        plain (words.drop 1).dropLast
      else if words.head? == some ['!'] then do
        return !(← conditionHolds fuel (words.drop 1))
      else plain words
    match words with
    | [] => return false
    | [_, operator, _] =>
      if isBinaryWord operator then wholeCondition .operand words else bracketed
    | [_, _, _, _] => bracketed
    | words => plain words

end KeyJoin.Shell
