import KeyJoin.Host.Conversion
import KeyJoin.Shell.Pattern
import KeyJoin.Tools.Options
import KeyJoin.Tools.Stream

/-!
# Translation of characters

Two strings describe sets of characters by ranges, classes, escapes and
repetitions.  The characters of the first set are replaced by those at the same
places of the second one, or deleted, and runs of a character may be squeezed
into one.
-/

namespace KeyJoin.Tools

open Tool

/-- A part of the description of a set.  A run that fills the set has no length of its own. -/
inductive SetItem
  | single (c : Char)
  | range (first last : Char)
  | named (name : String)
  | run (c : Char) (count : Option Nat)
  deriving DecidableEq

def allBytes : RawText :=
  (List.range 256).map Char.ofNat

def charactersOfClass (name : String) : Option RawText :=
  (Shell.characterClass? name).map fun ranges =>
    allBytes.filter (Shell.inCharacterRanges ranges)

/-- The character an escape stands for, given the text after the backslash. -/
def setEscape (text : RawText) : Char × RawText :=
  let octal := (text.take 3).takeWhile isOctalDigit
  let octal := if 255 < readInBase 8 octal then octal.take 2 else octal
  if !octal.isEmpty then (byteCharacter (readInBase 8 octal), text.drop octal.length)
  else
    match text with
    | [] => ('\\', [])
    | c :: rest =>
      (match c with
        | 'a' => '\x07'
        | 'b' => '\x08'
        | 'f' => '\x0c'
        | 'n' => '\n'
        | 'r' => '\x0d'
        | 't' => '\t'
        | 'v' => '\x0b'
        | c => c, rest)

/-- A string with its escapes replaced; the flag tells that a character was escaped. -/
def setCharacters : Nat → RawText → List (Char × Bool)
  | 0, _ => []
  | _, [] => []
  | fuel + 1, '\\' :: rest =>
    let (c, rest) := setEscape rest
    (c, true) :: setCharacters fuel rest
  | fuel + 1, c :: rest => (c, false) :: setCharacters fuel rest

/-- The text up to a closing mark and bracket, and what follows them. -/
def closedBy (mark : Char) : List (Char × Bool) → RawText → Option (RawText × List (Char × Bool))
  | (c, false) :: (']', false) :: rest, text =>
    if c == mark then some (text.reverse, rest)
    else closedBy mark ((']', false) :: rest) (c :: text)
  | (c, _) :: rest, text => closedBy mark rest (c :: text)
  | [], _ => none

/-- The length of a run, written after its star; one that begins with a zero is octal. -/
def runLength? (digits : RawText) : Option (Option Nat) :=
  if digits.isEmpty then some none
  else if !digits.all Char.isDigit then none
  else
    let n := if digits.head? == some '0' then readInBase 8 digits else readInBase 10 digits
    some (if n = 0 then none else some n)

/-- A bracketed part of a set, given what follows the opening bracket. -/
def bracketedItem? (rest : List (Char × Bool)) : Option (SetItem × List (Char × Bool)) :=
  match rest with
  | (':', false) :: after =>
    match closedBy ':' after [] with
    | some (name, rest) => some (.named (String.ofList name), rest)
    | none => none
  | ('=', false) :: after =>
    match closedBy '=' after [] with
    | some ([c], rest) => some (.single c, rest)
    | _ => none
  | (c, _) :: ('*', false) :: after =>
    let digits := after.takeWhile fun entry => entry.1 != ']'
    match after.drop digits.length, runLength? (digits.map (·.1)) with
    | _ :: rest, some count => some (.run c count, rest)
    | _, _ => none
  | _ => none

def setItems : Nat → List (Char × Bool) → Except RawText (List SetItem)
  | 0, _ => .ok []
  | _, [] => .ok []
  | fuel + 1, (c, escaped) :: rest =>
    match if c == '[' && !escaped then bracketedItem? rest else none with
    | some (item, rest) => do
      match item with
      | .named name =>
        if (charactersOfClass name).isNone then
          throw (raw "invalid character class " ++ quoted name.toList)
      | _ => pure ()
      return item :: (← setItems fuel rest)
    | none =>
      match rest with
      | ('-', false) :: (last, _) :: after => do
        if last < c then
          throw (raw "range-endpoints of '" ++ [c, '-', last] ++
            raw "' are in reverse collating sequence order")
        return .range c last :: (← setItems fuel after)
      | rest => do return .single c :: (← setItems fuel rest)

def readSet (text : RawText) : Except RawText (List SetItem) :=
  setItems (text.length + 1) (setCharacters (text.length + 1) text)

/-- The characters of an item; a run without a length has `fill` of them. -/
def SetItem.characters (fill : Nat) : SetItem → RawText
  | single c => [c]
  | range first last => allBytes.filter fun c => decide (first ≤ c ∧ c ≤ last)
  | named name => (charactersOfClass name).getD []
  | run c count => List.replicate (count.getD fill) c

def setSize (items : List SetItem) : Nat :=
  (items.map fun item => (item.characters 0).length).foldl (· + ·) 0

def charactersOf (fill : Nat) (items : List SetItem) : RawText :=
  items.flatMap (SetItem.characters fill)

/-- Where the classes of letters begin in a set, by the places of their characters. -/
def letterClasses (fill : Nat) : List SetItem → Nat → List Nat
  | [], _ => []
  | item :: items, place =>
    let here := if item == .named "upper" || item == .named "lower" then [place] else []
    here ++ letterClasses fill items (place + (item.characters fill).length)

/-- What becomes of the characters: the one to put for each, those deleted and those squeezed. -/
structure Translation where
  table : Array Char
  deleted : Array Bool
  squeezed : Array Bool

def tableOf (characters : RawText) : Array Bool :=
  characters.foldl (fun table c => table.setIfInBounds c.toNat true) (Array.replicate 256 false)

/-- The text after a translation, given the character put last if it is one that is squeezed. -/
def translateText (translation : Translation) (text : RawText) (last : Option Char) :
    RawText × Option Char :=
  let (out, last) := text.foldl
    (fun (state : RawText × Option Char) c =>
      let (out, last) := state
      if translation.deleted.getD c.toNat false then (out, last)
      else
        let d := translation.table.getD c.toNat c
        if translation.squeezed.getD d.toNat false then
          if last == some d then (out, last) else (d :: out, some d)
        else (d :: out, none))
    ([], last)
  (out.reverse, last)

def translationRules : List OptionRule :=
  [{ key := "c", letters := "cC", name := "complement" }, { key := "d", letters := "d", name := "delete" },
    { key := "s", letters := "s", name := "squeeze-repeats" },
    { key := "t", letters := "t", name := "truncate-set1" }]

def orFail (result : Except RawText (List SetItem)) : Tool (List SetItem) :=
  match result with
  | .ok items => return items
  | .error message => fail 1 message

/-- A message about operands with a line that explains it. -/
def misuseWith (message explanation : RawText) : Tool Unit := do
  say message
  sayPlainly (explanation ++ ['\n'])
  misuse 1 []

def checkOperands (deletes squeezes : Bool) (operands : List RawText) : Tool Unit := do
  let least := if deletes == squeezes then 2 else 1
  let most := if deletes && !squeezes then 1 else 2
  match operands with
  | [] => missingOperand 1
  | first :: rest =>
    if operands.length < least then
      misuseWith (raw "missing operand after " ++ quoted first)
        (if deletes then
          raw "Two strings must be given when both deleting and squeezing repeats."
        else raw "Two strings must be given when translating.")
    if most < operands.length then
      let extra := operands.getD most []
      if deletes && !squeezes then
        misuseWith (raw "extra operand " ++ quoted extra)
          (raw "Only one string may be given when deleting without squeezing repeats.")
      else extraOperand 1 extra
    let _ := rest

/-- The replacements of the characters of one set by those of another. -/
def replacementTable (complements truncates : Bool) (first second : List SetItem) :
    Tool (Array Char) := do
  let plain := charactersOf 0 first
  let source := if complements then allBytes.filter fun c => !plain.contains c else plain
  let fill := source.length - setSize second
  for item in second do
    match item with
    | .named name =>
      if name != "upper" && name != "lower" then
        fail 1 (raw "when translating, the only character classes that may appear in\n" ++
          raw "string2 are 'upper' and 'lower'")
    | _ => pure ()
  let ownClasses := letterClasses fill second 0
  let otherClasses := letterClasses 0 first 0
  if ownClasses.any fun place => complements || !otherClasses.contains place then
    fail 1 (raw "misaligned [:upper:] and/or [:lower:] construct")
  let target := charactersOf fill second
  if target.isEmpty && !truncates then
    fail 1 (raw "when not truncating set1, string2 must be non-empty")
  let extended := target ++
    match target.getLast? with
    | some c => if truncates then [] else List.replicate (source.length - target.length) c
    | none => []
  return (source.zip extended).foldl (fun table (c, d) => table.setIfInBounds c.toNat d)
    (allBytes.toArray)

def runTranslate (arguments : List RawText) : Tool Unit := do
  let options ← readFirstOptions 1 translationRules arguments
  let deletes := options.has "d"
  let squeezes := options.has "s"
  checkOperands deletes squeezes options.operands
  let first ← orFail (readSet (options.operands.headD []))
  let second ← orFail (readSet ((options.operands.drop 1).headD []))
  if first.any fun item => match item with | .run _ _ => true | _ => false then
    fail 1 (raw "the [c*] repeat construct may not appear in string1")
  let complements := options.has "c"
  let plain := charactersOf 0 first
  let chosen := if complements then allBytes.filter fun c => !plain.contains c else plain
  let translates := !deletes && 1 < options.operands.length
  let table ←
    if translates then replacementTable complements (options.has "t") first second
    else pure allBytes.toArray
  let translation : Translation :=
    { table := table
      deleted := if deletes then tableOf chosen else #[]
      squeezed :=
        if !squeezes then #[]
        else if 1 < options.operands.length then tableOf (charactersOf 1 second)
        else tableOf chosen }
  mapPieces (fun last text => translateText translation text last) [] (none : Option Char)

end KeyJoin.Tools
