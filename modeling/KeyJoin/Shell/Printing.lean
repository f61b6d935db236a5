import KeyJoin.Host.Conversion
import KeyJoin.Shell.Arithmetic

/-!
# Escapes and formats of printed text

Two commands of the shell interpret what they print: one prints its arguments
with escapes, the other fills a format.  The format is used again as long as
arguments are left and its conversions take some of them; a conversion without
an argument takes the empty text or zero.
-/

namespace KeyJoin.Shell

def namedEscape? : Char → Option Char
  | '\\' => some '\\'
  | 'a' => some '\x07'
  | 'b' => some '\x08'
  | 'e' => some '\x1b'
  | 'f' => some '\x0c'
  | 'n' => some '\n'
  | 'r' => some '\r'
  | 't' => some '\t'
  | 'v' => some '\x0b'
  | _ => none

/-- The character that an escape stands for and what follows it, given the text after the
backslash.  One to three octal digits give a byte, and a backslash before anything unknown stands
for itself. -/
def readEscape (text : RawText) : Char × RawText :=
  match text with
  | [] => ('\\', [])
  | c :: rest =>
    if isOctalDigit c then
      let digits := ((c :: rest).take 3).takeWhile isOctalDigit
      (byteCharacter (readInBase 8 digits), (c :: rest).drop digits.length)
    else
      match namedEscape? c with
      | some d => (d, rest)
      | none => ('\\', c :: rest)

/-- Replaces the escapes of an argument, where a zero may stand before the octal digits; what has
been replaced stands backwards.  The second part says whether the escape that ends all output was
met. -/
def replaceEscapesFrom : Nat → RawText → RawText → RawText × Bool
  | 0, out, _ => (out.reverse, false)
  | _, out, [] => (out.reverse, false)
  | _ + 1, out, '\\' :: 'c' :: _ => (out.reverse, true)
  | fuel + 1, out, '\\' :: rest =>
    let rest :=
      match rest with
      | '0' :: d :: more => if isOctalDigit d then d :: more else rest
      | _ => rest
    let (c, rest) := readEscape rest
    replaceEscapesFrom fuel (c :: out) rest
  | fuel + 1, out, c :: rest => replaceEscapesFrom fuel (c :: out) rest

def replaceEscapes (text : RawText) : RawText × Bool :=
  replaceEscapesFrom (text.length + 1) [] text

/-- Prints arguments with escapes, a space between them and a line feed at the end unless it is
suppressed.  The escape that ends the output leaves out all that would follow. -/
def echoArguments (suppressed : Bool) : List RawText → RawText
  | [] => if suppressed then [] else ['\n']
  | [argument] =>
    let (text, ended) := replaceEscapes argument
    if ended || suppressed then text else text ++ ['\n']
  | argument :: arguments =>
    let (text, ended) := replaceEscapes argument
    if ended then text else text ++ ' ' :: echoArguments suppressed arguments

def echoText : List RawText → RawText
  | ['-', 'n'] :: arguments => echoArguments true arguments
  | arguments => echoArguments false arguments

/-! ## Formats -/

/-- Why the filling of a format stopped. -/
inductive FormatStop
  | escape
  | missingCharacter
  | invalidDirective (directive : RawText)

def FormatStop.message? : FormatStop → Option RawText
  | escape => none
  | missingCharacter => some (raw "missing format character")
  | invalidDirective directive => some (directive ++ raw ": invalid directive")

/-- What is wrong with an argument that should have been a number. -/
inductive NumberFault
  | notNumeric
  | partlyConverted
  | outOfRange

def NumberFault.description : NumberFault → String
  | notNumeric => "expected numeric value"
  | partlyConverted => "not completely converted"
  | outOfRange => "Numerical result out of range"

/-- What has been printed, backwards and in pieces, the arguments left, and those of the arguments
that were no numbers. -/
structure FormatState where
  out : List RawText := []
  arguments : List RawText
  faults : List (RawText × NumberFault) := []

abbrev Format := ExceptT FormatStop (StateM FormatState)

namespace Format

def put (text : RawText) : Format Unit :=
  modify fun state => { state with out := text :: state.out }

def warn (argument : RawText) (fault : NumberFault) : Format Unit :=
  modify fun state => { state with faults := state.faults ++ [(argument, fault)] }

def next? : Format (Option RawText) := do
  match (← get).arguments with
  | [] => return none
  | argument :: arguments =>
    modify fun state => { state with arguments := arguments }
    return some argument

def next : Format RawText := do
  return (← next?).getD []

/-- Says what is wrong with a numeric argument of which `rest` was not read. -/
def checkConversion (argument rest : RawText) (isOutOfRange : Bool) : Format Unit := do
  if !rest.isEmpty then
    warn argument (if rest.length == argument.length then .notNumeric else .partlyConverted)
  else if isOutOfRange then warn argument .outOfRange

/-- The next argument as a whole number; a quote asks for the number of the byte after it. -/
def nextNumber (isSigned : Bool) : Format Int := do
  match ← next? with
  | none => return 0
  | some argument =>
    match argument with
    | '\'' :: rest | '"' :: rest => return (rest.headD '\x00').toNat
    | _ =>
      match readInteger? argument with
      | none =>
        checkConversion argument argument false
        return 0
      | some (value, rest) =>
        let least := if isSigned then smallestInteger else -((integerModulus : Int) - 1)
        let most := if isSigned then largestInteger else (integerModulus : Int) - 1
        let isOutOfRange := decide (value < least ∨ most < value)
        checkConversion argument rest isOutOfRange
        if !isOutOfRange then return value
        else if !isSigned || most < value then return most
        else return least

/-- The next argument as a number with a binary point. -/
def nextFloat : Format Float := do
  match ← next? with
  | none => return 0
  | some argument =>
    match argument with
    | '\'' :: rest | '"' :: rest => return Float.ofNat (rest.headD '\x00').toNat
    | _ =>
      match readFloat? argument with
      | none =>
        checkConversion argument argument false
        return 0
      | some (value, rest) =>
        let hasDigit := (argument.takeWhile fun c => !"iI".toList.contains c).any Char.isDigit
        let isNonzero := argument.any fun c => decide ('1' ≤ c ∧ c ≤ '9')
        let isOutOfRange := (value.isInf && hasDigit) || (value == 0 && isNonzero && hasDigit &&
          (argument.any fun c => c == 'e' || c == 'E' || c == 'p'))
        checkConversion argument rest isOutOfRange
        return value

/-- A width or precision, which a star takes from the arguments as a number of thirty-two bits. -/
def count (text : RawText) : Format (Int × RawText) := do
  match text with
  | '*' :: rest => return ((← nextNumber true).bmod 4294967296, rest)
  | _ =>
    let digits := text.takeWhile fun c => c.isDigit || c == '*'
    return (readInBase 10 (digits.takeWhile Char.isDigit), text.drop digits.length)

def convert (conversion : Conversion) (directive : RawText) (c : Char) : Format Unit := do
  if c == 's' then put (conversion.string (← next))
  else if c == 'c' then put (conversion.pad [(← next).headD '\x00'])
  else if c == 'b' then
    let (text, ended) := replaceEscapes (← next)
    put (conversion.string text)
    if ended then throw .escape
  else if c == 'd' || c == 'i' then put (conversion.signedNumber (← nextNumber true))
  else if ['o', 'u', 'x', 'X'].contains c then
    let value ← nextNumber false
    put (conversion.unsignedNumber c (value % (integerModulus : Int)).toNat)
  else if ['a', 'A', 'e', 'E', 'f', 'F', 'g', 'G'].contains c then
    put (conversion.float c (← nextFloat))
  else throw (.invalidDirective directive)

/-- Fills a conversion given the text after its mark, and gives what follows it. -/
def fill (text : RawText) : Format RawText := do
  let flags := text.takeWhile Conversion.isFlag
  let (width, rest) ← count (text.drop flags.length)
  let (precision, rest) ←
    match rest with
    | '.' :: rest => do
      let (precision, rest) ← count rest
      pure (some precision, rest)
    | rest => pure (none, rest)
  match rest with
  | [] => throw .missingCharacter
  | c :: rest =>
    let directive := '%' :: text.take (text.length - rest.length)
    convert (Conversion.ofParts flags width precision) directive c
    return rest

/-- One pass over the format. -/
def pass : Nat → RawText → Format Unit
  | 0, _ => return
  | _, [] => return
  | fuel + 1, '\\' :: rest => do
    let (c, rest) := readEscape rest
    put [c]
    pass fuel rest
  | fuel + 1, '%' :: '%' :: rest => do
    put ['%']
    pass fuel rest
  | fuel + 1, '%' :: rest => do pass fuel (← fill rest)
  | fuel + 1, c :: rest => do
    put [c]
    pass fuel rest

def passes : Nat → RawText → Format Unit
  | 0, _ => return
  | fuel + 1, format => do
    let before := (← get).arguments.length
    pass (format.length + 1) format
    let left := (← get).arguments.length
    if 0 < left && left < before then passes fuel format

end Format

/-- Fills a format with arguments. -/
def formatArguments (format : RawText) (arguments : List RawText) :
    Option FormatStop × FormatState :=
  let (result, state) := ((Format.passes (arguments.length + 1) format).run).run
    { arguments := arguments }
  match result with
  | .ok () => (none, state)
  | .error stop => (some stop, state)

end KeyJoin.Shell
