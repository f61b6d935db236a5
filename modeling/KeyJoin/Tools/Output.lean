import KeyJoin.Shell.Printing
import KeyJoin.Tools.Options
import KeyJoin.Tools.Stream

/-!
# Tools that print without reading

Tools that print their arguments, a format filled with them, a line again and
again, numbers in sequence, or the parts of a path.  Numbers in sequence are
decimal numbers and are counted exactly.
-/

namespace KeyJoin.Tools

open Tool

/-! ## Arguments -/

/-- Which of the words in front are options, and what they ask for: no line feed at the end, and
escapes. -/
def echoOptions : List RawText → Bool × Bool → (Bool × Bool) × List RawText
  | ('-' :: c :: cs) :: rest, (ends, escapes) =>
    if (c :: cs).all fun d => d == 'n' || d == 'e' || d == 'E' then
      let last := (c :: cs).reverse.find? fun d => d != 'n'
      echoOptions rest
        (ends && !(c :: cs).contains 'n', (last.map (· == 'e')).getD escapes)
    else ((ends, escapes), ('-' :: c :: cs) :: rest)
  | rest, options => (options, rest)

/-- Replaces escapes; the second part says whether the escape that ends all output was met. -/
def replaceEchoEscapes : Nat → RawText → RawText → RawText × Bool
  | 0, out, _ => (out.reverse, false)
  | _, out, [] => (out.reverse, false)
  | _ + 1, out, '\\' :: 'c' :: _ => (out.reverse, true)
  | fuel + 1, out, '\\' :: 'x' :: rest =>
    let digits := (rest.take 2).takeWhile isHexDigit
    if digits.isEmpty then replaceEchoEscapes fuel ('x' :: '\\' :: out) rest
    else
      replaceEchoEscapes fuel (byteCharacter (readInBase 16 digits) :: out)
        (rest.drop digits.length)
  | fuel + 1, out, '\\' :: '0' :: rest =>
    let digits := (rest.take 3).takeWhile isOctalDigit
    replaceEchoEscapes fuel (byteCharacter (readInBase 8 digits) :: out) (rest.drop digits.length)
  | fuel + 1, out, '\\' :: rest =>
    let (c, rest) := Shell.readEscape rest
    replaceEchoEscapes fuel (c :: out) rest
  | fuel + 1, out, c :: rest => replaceEchoEscapes fuel (c :: out) rest

/-- Prints words with a space between them. -/
def echoWords (ends escapes : Bool) (words : List RawText) : RawText :=
  let text := [' '].intercalate words
  let (text, isCut) :=
    if escapes then replaceEchoEscapes (text.length + 1) [] text else (text, false)
  if ends && !isCut then text ++ ['\n'] else text

def runEcho (arguments : List RawText) : Tool Unit := do
  let ((ends, escapes), words) := echoOptions arguments (true, false)
  put (echoWords ends escapes words)

def describeNumberFault : Shell.NumberFault → String
  | .notNumeric => "expected a numeric value"
  | .partlyConverted => "value not completely converted"
  | .outOfRange => "Numerical result out of range"

def runFormat (arguments : List RawText) : Tool Unit := do
  let arguments := if arguments.head? == some ['-', '-'] then arguments.drop 1 else arguments
  match arguments with
  | [] => missingOperand 1
  | format :: arguments =>
    let (stop?, state) := Shell.formatArguments format arguments
    put state.out.reverse.flatten
    for (argument, fault) in state.faults do
      say (quoted argument ++ raw ": " ++ raw (describeNumberFault fault))
      setStatus 1
    match stop? with
    | some (.invalidDirective directive) =>
      fail 1 (directive ++ raw ": invalid conversion specification")
    | some .missingCharacter => fail 1 (raw "%: invalid conversion specification")
    | some .escape => pure ()
    | none =>
      match state.arguments with
      | [] => pure ()
      | argument :: _ =>
        say (raw "warning: ignoring excess arguments, starting with " ++ quoted argument)

/-- Prints a text again and again. -/
def putAgain (text : RawText) : Nat → Tool Unit
  | 0 => return
  | fuel + 1 => do
    put text
    putAgain text fuel

def runYes (arguments : List RawText) : Tool Unit := do
  let options ← readOptions 1 [] arguments
  let words := if options.operands.isEmpty then [['y']] else options.operands
  let line := echoWords true false words
  putAgain (List.replicate (bufferSize / line.length + 1) line).flatten streamFuel

def runTrue (_ : List RawText) : Tool Unit :=
  return

def runFalse (_ : List RawText) : Tool Unit :=
  setStatus 1

/-! ## Numbers in sequence -/

/-- A decimal number: a whole number of units of the last of its places; how many places and
columns it is shown with. -/
structure SequenceNumber where
  units : Int
  places : Nat
  width : Nat

/-- The units of a number in a larger number of places. -/
def SequenceNumber.unitsIn (number : SequenceNumber) (places : Nat) : Int :=
  number.units * tenTo (places - number.places)

def sequenceNumber? (text : RawText) : Option SequenceNumber :=
  let text := text.dropWhile fun c => isSpaceByte c || c == '+'
  let (isNegative, body) :=
    match text with
    | '-' :: rest => (true, rest)
    | _ => (false, text)
  let (digits, places, rest) := readPlaces Char.isDigit body
  if digits.isEmpty then none
  else
    let exponent? : Option Int :=
      match rest with
      | [] => some 0
      | e :: after =>
        if e == 'e' || e == 'E' then
          match readExponent? after with
          | some (exponent, []) => some exponent
          | _ => none
        else none
    exponent?.map fun exponent =>
      let magnitude : Int := readInBase 10 digits
      let magnitude := if isNegative then -magnitude else magnitude
      let written := text.length - rest.length
      let hasPoint := body.contains '.'
      let width :=
        if !hasPoint then written
        else if places = 0 then written - 1
        else if body.head? == some '.' then written + 1
        else written
      if exponent < 0 then
        let isExtended := !hasPoint || places = 0
        ⟨magnitude, places + exponent.natAbs,
          (if isExtended then width + 1 else width) + exponent.natAbs⟩
      else
        let moved := min places exponent.toNat
        ⟨magnitude * tenTo (exponent.toNat - moved), places - moved, width + exponent.toNat⟩

/-- A number of units in decimal places. -/
def placedText (units : Int) (places : Nat) : RawText :=
  let digits := padZeros (places + 1) (naturalText units.natAbs)
  let whole := digits.take (digits.length - places)
  let text := if places = 0 then whole else whole ++ '.' :: digits.drop whole.length
  if units < 0 then '-' :: text else text

/-- A text filled up with zeros after its sign. -/
def zeroFilled (width : Nat) (text : RawText) : RawText :=
  match text with
  | '-' :: rest => '-' :: padZeros (width - 1) rest
  | _ => padZeros width text

/-- Prints numbers from `units` on as long as the last one is not passed. -/
def putSequence (show_ : Int → RawText) (separator : RawText) (step : Int) (last : Option Int) :
    Nat → Int → Tool Unit
  | 0, _ => return
  | fuel + 1, units => do
    put (show_ units)
    let next := units + step
    let isPast :=
      match last with
      | none => false
      | some last => if step < 0 then decide (next < last) else decide (last < next)
    if isPast then put ['\n']
    else
      put separator
      putSequence show_ separator step last fuel next

/-- The parts of a format with one conversion of a number with a binary point. -/
def sequenceFormat (format : RawText) : Tool (Float → RawText) := do
  let undouble := fun (text : RawText) =>
    (text.foldl
      (fun (out, isSecond) c =>
        if c == '%' && isSecond then (out, false) else (c :: out, c == '%'))
      (([] : RawText), false)).1.reverse
  let rec start : Nat → RawText → RawText → Option (RawText × RawText)
    | 0, _, _ => none
    | _, _, [] => none
    | fuel + 1, before, '%' :: '%' :: rest => start fuel ('%' :: '%' :: before) rest
    | _, before, '%' :: rest => some (before.reverse, rest)
    | fuel + 1, before, c :: rest => start fuel (c :: before) rest
  match start (format.length + 1) [] format with
  | none => fail 1 (raw "format " ++ quoted format ++ raw " has no % directive")
  | some (before, rest) =>
    let flags := rest.takeWhile fun c => Conversion.isFlag c || c == '\''
    let rest := rest.drop flags.length
    let width := rest.takeWhile Char.isDigit
    let rest := rest.drop width.length
    let (precision, rest) :=
      match rest with
      | '.' :: rest =>
        let digits := rest.takeWhile Char.isDigit
        (some (readInBase 10 digits : Int), rest.drop digits.length)
      | _ => (none, rest)
    match rest with
    | [] => fail 1 (raw "format " ++ quoted format ++ raw " ends in %")
    | c :: after =>
      if !(['e', 'E', 'f', 'F', 'g', 'G', 'a', 'A'].contains c) then
        fail 1 (raw "format " ++ quoted format ++ raw " has unknown %" ++ [c] ++ raw " directive")
      if (start (after.length + 1) [] after).isSome then
        fail 1 (raw "format " ++ quoted format ++ raw " has too many % directives")
      let conversion := Conversion.ofParts flags (readInBase 10 width) precision
      return fun x => undouble before ++ conversion.float c x ++ undouble after

def sequenceRules : List OptionRule :=
  [{ key := "f", letters := "f", name := "format", argument := .required },
    { key := "s", letters := "s", name := "separator", argument := .required },
    { key := "w", letters := "w", name := "equal-width" }]

/-- Puts two dashes in front of the first operand if that is a number below zero. -/
def withNegativeOperands : List RawText → List RawText
  | ['-', 's'] :: value :: rest => ['-', 's'] :: value :: withNegativeOperands rest
  | ['-', 'f'] :: value :: rest => ['-', 'f'] :: value :: withNegativeOperands rest
  | ('-' :: c :: cs) :: rest =>
    if c.isDigit || c == '.' then ['-', '-'] :: ('-' :: c :: cs) :: rest
    else ('-' :: c :: cs) :: withNegativeOperands rest
  | words => words

def isEndless (text : RawText) : Bool :=
  let text := text.map Char.toLower
  text == raw "inf" || text == raw "infinity"

def runSequence (arguments : List RawText) : Tool Unit := do
  let options ← readFirstOptions 1 sequenceRules (withNegativeOperands arguments)
  let number := fun (text : RawText) =>
    match sequenceNumber? text with
    | some number => pure number
    | none => misuse 1 (raw "invalid floating point argument: " ++ quoted text)
  let one : SequenceNumber := ⟨1, 0, 1⟩
  let (first, step, lastText) ←
    match options.operands with
    | [] => missingOperand 1
    | [last] => pure (one, one, last)
    | [first, last] => pure (← number first, one, last)
    | [first, step, last] => do
      let first ← number first
      let shown := step
      let step ← number step
      if step.units == 0 then misuse 1 (raw "invalid Zero increment value: " ++ quoted shown)
      pure (first, step, last)
    | _ :: _ :: _ :: operand :: _ => extraOperand 1 operand
  let isOpen := isEndless lastText
  let last ← if isOpen then pure one else number lastText
  if options.has "f" && options.has "w" then
    misuse 1 (raw "format string may not be specified when printing equal width strings")
  let places := max first.places step.places
  let scale := max places last.places
  let width :=
    if !options.has "w" then 0
    else
      let firstWidth := first.width + (places - first.places) +
        (if first.places = 0 && places != 0 then 1 else 0)
      let lastWidth :=
        if places < last.places then
          last.width - (last.places - places) - (if places = 0 then 1 else 0)
        else
          last.width + (places - last.places) +
            (if last.places = 0 && places != 0 then 1 else 0)
      max firstWidth lastWidth
  let shownPlaces := fun (units : Int) => units / tenTo (scale - places)
  let show_ : Int → RawText ←
    match options.value? "f" with
    | none => pure fun units => zeroFilled width (placedText (shownPlaces units) places)
    | some format => do
      let fill ← sequenceFormat format
      pure fun units =>
        let x := floatOfDecimal (naturalText units.natAbs) scale 0
        fill (if units < 0 then -x else x)
  let firstUnits := first.unitsIn scale
  let stepUnits := step.unitsIn scale
  let lastUnits := last.unitsIn scale
  let isEmpty := !isOpen &&
    (if stepUnits < 0 then decide (firstUnits < lastUnits) else decide (lastUnits < firstUnits))
  if !isEmpty then
    putSequence show_ ((options.value? "s").getD ['\n']) stepUnits
      (if isOpen then none else some lastUnits) streamFuel firstUnits

/-! ## Parts of paths -/

/-- The last part of a path. -/
def lastPart (path : RawText) : RawText :=
  let trimmed := trimEndOf (· == '/') path
  if trimmed.isEmpty then path.take 1 else (trimmed.reverse.takeWhile (· != '/')).reverse

/-- A path without its last part. -/
def folderPart (path : RawText) : RawText :=
  let trimmed := trimEndOf (· == '/') path
  let before := (trimmed.reverse.dropWhile (· != '/')).reverse
  if before.isEmpty then (if trimmed.isEmpty && !path.isEmpty then ['/'] else ['.'])
  else
    let folder := trimEndOf (· == '/') before
    if folder.isEmpty then ['/'] else folder

def withoutSuffix (suffix name : RawText) : RawText :=
  if !suffix.isEmpty && suffix.length < name.length && suffix.isSuffixOf name then
    name.take (name.length - suffix.length)
  else name

def runLastPart (arguments : List RawText) : Tool Unit := do
  let options ← readFirstOptions 1
    [{ key := "a", letters := "a", name := "multiple" },
      { key := "s", letters := "s", name := "suffix", argument := .required },
      { key := "z", letters := "z", name := "zero" }]
    arguments
  let ending := if options.has "z" then '\x00' else '\n'
  let suffix := (options.value? "s").getD []
  if options.has "a" || options.has "s" then
    if options.operands.isEmpty then missingOperand 1
    for path in options.operands do
      put (withoutSuffix suffix (lastPart path) ++ [ending])
  else
    match options.operands with
    | [] => missingOperand 1
    | [path] => put (lastPart path ++ [ending])
    | [path, suffix] => put (withoutSuffix suffix (lastPart path) ++ [ending])
    | _ :: _ :: operand :: _ => extraOperand 1 operand

def runFolderPart (arguments : List RawText) : Tool Unit := do
  let options ← readOptions 1 [{ key := "z", letters := "z", name := "zero" }] arguments
  if options.operands.isEmpty then missingOperand 1
  for path in options.operands do
    put (folderPart path ++ [if options.has "z" then '\x00' else '\n'])

end KeyJoin.Tools
