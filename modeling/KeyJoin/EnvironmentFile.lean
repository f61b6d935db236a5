import KeyJoin.BlankText
import KeyJoin.SettingsDocument
import KeyJoin.TextLines
import KeyJoin.WordCharacters

/-!
# Files of environment variables

A file sets variables line by line, each by a name, an equals sign and a value.
Quotes keep a value together, and a dollar sign puts in the value of another
variable: that of the environment or else the one set above.  Reading stops at
the first line that is not of this form, and what the lines above it set
remains.  A variable that the environment has keeps its value, and no variable
can be given a value with a null character.
-/

namespace KeyJoin

/-- How far the reading of a value has come: outside quotes, within them, or after the value. -/
inductive ValuePlace
  | outside
  | inSingleQuotes
  | inDoubleQuotes
  | afterValue
  deriving DecidableEq

inductive SubstitutionPlace
  | nowhere
  | afterDollar
  | inBraces
  deriving DecidableEq

/-- What has been read of a value, backwards, and of the name to substitute, backwards. -/
structure ValueReading where
  place : ValuePlace := .outside
  escaped : Bool := false
  substitution : SubstitutionPlace := .nowhere
  name : List Char := []
  text : List Char := []

def ValueReading.put (reading : ValueReading) (c : Char) : ValueReading :=
  { reading with text := c :: reading.text }

/-- Puts in the value of the variable named and leaves the substitution. -/
def ValueReading.substitute (reading : ValueReading) (lookup : List Char → List Char) :
    ValueReading :=
  { reading with
    substitution := .nowhere
    name := []
    text := (lookup reading.name.reverse).reverse ++ reading.text }

def escapedValueCharacter? (c : Char) : Option Char :=
  if ['\\', '\'', '"', '$', ' '].contains c then some c
  else if c = 'n' then some '\n'
  else none

def ValueReading.substituting (reading : ValueReading) (lookup : List Char → List Char)
    (c : Char) : ValueReading :=
  if isAlphanumeric c then { reading with name := c :: reading.name }
  else
    match reading.substitution with
    | .inBraces =>
      if c = '\x7d' then reading.substitute lookup else { reading with name := c :: reading.name }
    | _ =>
      if c = '\x7b' ∧ reading.name.isEmpty then { reading with substitution := .inBraces }
      else if c = '$' then { reading.substitute lookup with substitution := .afterDollar }
      else (reading.substitute lookup).put c

def ValueReading.outsideQuotes (reading : ValueReading) (c : Char) : ValueReading :=
  if c = '\'' then { reading with place := .inSingleQuotes }
  else if c = '"' then { reading with place := .inDoubleQuotes }
  else if c = '\\' then { reading with escaped := true }
  else if c = ' ' ∨ c = '\t' then { reading with place := .afterValue }
  else reading.put c

/-- Reads the rest of a value; a comment may follow it after a blank. -/
def readEnvironmentValue (lookup : List Char → List Char) :
    ValueReading → List Char → Option (List Char)
  | reading, [] =>
    if reading.substitution = .inBraces ∨ reading.place = .inSingleQuotes ∨
        reading.place = .inDoubleQuotes then none
    else some (reading.substitute lookup).text.reverse
  | reading, c :: rest =>
    if reading.place = .afterValue then
      if c = ' ' ∨ c = '\t' then readEnvironmentValue lookup reading rest
      else if c = '#' then some (reading.substitute lookup).text.reverse
      else none
    else if reading.escaped then
      match escapedValueCharacter? c with
      | some d => readEnvironmentValue lookup ({ reading with escaped := false }.put d) rest
      | none => none
    else if reading.place = .inSingleQuotes then
      readEnvironmentValue lookup
        (if c = '\'' then { reading with place := .outside } else reading.put c) rest
    else if reading.substitution ≠ .nowhere then
      readEnvironmentValue lookup (reading.substituting lookup c) rest
    else if c = '$' then
      readEnvironmentValue lookup { reading with substitution := .afterDollar } rest
    else if reading.place = .inDoubleQuotes then
      readEnvironmentValue lookup
        (if c = '"' then { reading with place := .outside }
          else if c = '\\' then { reading with escaped := true }
          else reading.put c) rest
    else readEnvironmentValue lookup (reading.outsideQuotes c) rest

def isKeyStart (c : Char) : Bool :=
  c.isAlpha || c == '_'

def isKeyCharacter (c : Char) : Bool :=
  c.isAlphanum || c == '_' || c == '.'

def readKey : List Char → Option (List Char × List Char)
  | [] => none
  | c :: rest =>
    if isKeyStart c then
      some (c :: rest.takeWhile isKeyCharacter, trimStart (rest.dropWhile isKeyCharacter))
    else none

/-- The name before the equals sign, which the word for exporting may precede. -/
def readAssignedKey (line : List Char) : Option (List Char × List Char) :=
  match readKey line with
  | none => none
  | some (key, '=' :: rest) => some (key, trimStart rest)
  | some (key, rest) =>
    if key = "export".toList then
      match readKey rest with
      | some (key, '=' :: rest) => some (key, trimStart rest)
      | _ => none
    else none

/-- A line sets a variable, sets nothing, or is not of the form. -/
inductive EnvironmentLine
  | sets (key value : String)
  | setsNothing
  | malformed

def startsComment : List Char → Bool
  | [] => true
  | c :: _ => c == '#'

def readEnvironmentLine (lookup : List Char → List Char) (line : List Char) : EnvironmentLine :=
  let line := trim line
  if startsComment line then .setsNothing
  else
    match readAssignedKey line with
    | none => .malformed
    | some (key, rest) =>
      if startsComment rest then .sets (String.ofList key) ""
      else
        match readEnvironmentValue lookup {} rest with
        | some value => .sets (String.ofList key) (String.ofList value)
        | none => .malformed

/-- The value of a variable in the environment or else among those set above. -/
def substitutedValue (environment above : Environment) (name : List Char) : List Char :=
  match environment.lookup (String.ofList name) with
  | some value => value.toList
  | none => ((above.lookup (String.ofList name)).getD "").toList

def addMissing (environment : Environment) (key value : String) : Environment :=
  if (environment.lookup key).isSome then environment else environment ++ [(key, value)]

/-- Whether a variable can be given a value: no value holds a null character. -/
def canBeSet (environment : Environment) (key value : String) : Bool :=
  (environment.lookup key).isSome || !value.toList.contains '\x00'

def loadLines? : Environment → Environment → List (List Char) → Option Environment
  | environment, _, [] => some environment
  | environment, above, line :: rest =>
    match readEnvironmentLine (substitutedValue environment above) line with
    | .malformed => some environment
    | .setsNothing => loadLines? environment above rest
    | .sets key value =>
      if canBeSet environment key value then
        loadLines? (addMissing environment key value) ((key, value) :: above) rest
      else none

/-- The environment with the variables that a file adds to it, unless one of them cannot be set. -/
def Environment.load? (environment : Environment) (file : List Char) : Option Environment :=
  loadLines? environment [] (lines file)

end KeyJoin
