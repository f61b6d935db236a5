import KeyJoin.Tools.Tool

/-!
# Options of tools

Options stand anywhere among the arguments, up to two dashes.  Letters may be
written together, and an option that takes an argument takes the rest of its
word or the next word.  Long options may be shortened as long as it stays clear
which one is meant.
-/

namespace KeyJoin

inductive OptionArgument
  | without
  | required
  | possible
  deriving DecidableEq

/-- An option under the key by which the tool asks for it. -/
structure OptionRule where
  key : String
  letters : String := ""
  name : String := ""
  argument : OptionArgument := .without

/-- The options that were given with their arguments, in order, and the other words. -/
structure GivenOptions where
  given : List (String × RawText) := []
  operands : List RawText := []

namespace GivenOptions

def has (options : GivenOptions) (key : String) : Bool :=
  options.given.any fun entry => entry.1 == key

/-- The argument of the last option with a key. -/
def value? (options : GivenOptions) (key : String) : Option RawText :=
  (options.given.reverse.find? fun entry => entry.1 == key).map (·.2)

def values (options : GivenOptions) (key : String) : List RawText :=
  options.given.filterMap fun entry => if entry.1 == key then some entry.2 else none

/-- The key given last among several. -/
def lastOf (options : GivenOptions) (keys : List String) : Option String :=
  (options.given.reverse.find? fun entry => keys.contains entry.1).map (·.1)

def put (options : GivenOptions) (key : String) (value : RawText) : GivenOptions :=
  { options with given := options.given ++ [(key, value)] }

end GivenOptions

namespace Tool

/-- A rule for each of some letters that take no argument and are their own keys. -/
def letterRules (letters : String) : List OptionRule :=
  letters.toList.map fun c => { key := c.toString, letters := c.toString }

def ruleOfLetter? (rules : List OptionRule) (c : Char) : Option OptionRule :=
  rules.find? fun rule => rule.letters.toList.contains c

/-- Reads the letters of a word; the rest of the words may hold an argument. -/
def readLetters (status : Nat) (rules : List OptionRule) :
    RawText → List RawText → GivenOptions → Tool (GivenOptions × List RawText)
  | [], rest, options => return (options, rest)
  | c :: cs, rest, options => do
    match ruleOfLetter? rules c with
    | none => misuse status (raw "invalid option -- " ++ quoted [c])
    | some rule =>
      match rule.argument with
      | .without => readLetters status rules cs rest (options.put rule.key [])
      | .possible => return (options.put rule.key cs, rest)
      | .required =>
        if !cs.isEmpty then return (options.put rule.key cs, rest)
        match rest with
        | value :: rest => return (options.put rule.key value, rest)
        | [] => misuse status (raw "option requires an argument -- " ++ quoted [c])

/-- The rule that a long name means, or the message if it means none. -/
def ruleOfName (rules : List OptionRule) (name : RawText) : Except RawText OptionRule :=
  let shown := fun (name : RawText) => quoted (raw "--" ++ name)
  let named := rules.filter fun rule => !rule.name.isEmpty && name.isPrefixOf rule.name.toList
  match named.find? fun rule => rule.name.toList == name with
  | some rule => .ok rule
  | none =>
    match named with
    | [] => .error (raw "unrecognized option " ++ shown name)
    | rule :: others =>
      if others.all fun other => other.key == rule.key then .ok rule
      else
        .error (raw "option " ++ shown name ++ raw " is ambiguous; possibilities:" ++
          named.flatMap fun rule => ' ' :: shown rule.name.toList)

def readLong (status : Nat) (rules : List OptionRule) (word : RawText) (rest : List RawText)
    (options : GivenOptions) : Tool (GivenOptions × List RawText) := do
  let name := word.takeWhile (· != '=')
  let value? := if name.length < word.length then some (word.drop (name.length + 1)) else none
  match ruleOfName rules name with
  | .error message => misuse status message
  | .ok rule =>
    let shown := quoted (raw "--" ++ rule.name.toList)
    match rule.argument, value?, rest with
    | .without, some _, _ => misuse status (raw "option " ++ shown ++ raw " doesn't allow an argument")
    | .without, none, rest => return (options.put rule.key [], rest)
    | .possible, value?, rest => return (options.put rule.key (value?.getD []), rest)
    | .required, some value, rest => return (options.put rule.key value, rest)
    | .required, none, value :: rest => return (options.put rule.key value, rest)
    | .required, none, [] => misuse status (raw "option " ++ shown ++ raw " requires an argument")

/-- What becomes of a word that is no option while options are read: it is put to the operands, or
it ends the options. -/
inductive OperandRule
  | apart
  | ends
  deriving DecidableEq

/-- Reads options among the arguments. -/
def readOptionsFrom (status : Nat) (rules : List OptionRule) (operandRule : OperandRule) :
    Nat → List RawText → GivenOptions → Tool GivenOptions
  | 0, rest, options => return { options with operands := options.operands ++ rest }
  | _, [], options => return options
  | fuel + 1, word :: rest, options => do
    match word with
    | ['-', '-'] => return { options with operands := options.operands ++ rest }
    | '-' :: '-' :: name =>
      let (options, rest) ← readLong status rules name rest options
      readOptionsFrom status rules operandRule fuel rest options
    | '-' :: c :: cs =>
      let (options, rest) ← readLetters status rules (c :: cs) rest options
      readOptionsFrom status rules operandRule fuel rest options
    | word =>
      match operandRule with
      | .ends => return { options with operands := options.operands ++ word :: rest }
      | .apart =>
        readOptionsFrom status rules operandRule fuel rest
          { options with operands := options.operands ++ [word] }

/-- The options and operands of a tool; `status` is how it ends if one is not known. -/
def readOptions (status : Nat) (rules : List OptionRule) (arguments : List RawText) :
    Tool GivenOptions :=
  readOptionsFrom status rules .apart (arguments.length + 1) arguments {}

/-- The options in front of the operands. -/
def readFirstOptions (status : Nat) (rules : List OptionRule) (arguments : List RawText) :
    Tool GivenOptions :=
  readOptionsFrom status rules .ends (arguments.length + 1) arguments {}

/-- What a word means among those that an option takes. -/
inductive WordMeaning
  | unknown
  | ambiguous
  | meant (name : String)

/-- The name that a word or its beginning stands for; each list holds names for the same thing. -/
def meaningOfWord (known : List (List String)) (word : RawText) : WordMeaning :=
  let all := known.flatten
  if all.contains (String.ofList word) then .meant (String.ofList word)
  else
    match known.filter fun names => names.any fun name => word.isPrefixOf name.toList with
    | [] => .unknown
    | [names] => .meant ((names.find? fun name => word.isPrefixOf name.toList).getD "")
    | _ => .ambiguous

/-- The word that an option takes, out of those that are known; each list holds names for the same
thing. -/
def readWord (status : Nat) (option : String) (known : List (List String)) (word : RawText) :
    Tool String := do
  let refuse := fun (reason : String) => do
    say (raw reason ++ quoted word ++ raw " for " ++ quoted (raw option))
    let lines := known.map fun names =>
      raw "  - " ++ (raw ", ").intercalate (names.map fun name => quoted (raw name))
    sayPlainly (raw "Valid arguments are:\n" ++ joinLines lines)
    misuse status []
  match meaningOfWord known word with
  | .meant name => return name
  | .unknown => refuse "invalid argument "
  | .ambiguous => refuse "ambiguous argument "

def extraOperand {α : Type} (status : Nat) (operand : RawText) : Tool α :=
  misuse status (raw "extra operand " ++ quoted operand)

def missingOperand {α : Type} (status : Nat) : Tool α :=
  misuse status (raw "missing operand")

end Tool

end KeyJoin
