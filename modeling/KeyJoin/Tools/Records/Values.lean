import KeyJoin.Host.Conversion
import KeyJoin.Tools.RegexSyntax
import KeyJoin.Tools.Records.Syntax

/-!
# Values of programs over records

A value is a number or a text, and turns into the other where that is needed.
Text from outside that looks like a number is compared as one.  A number that is
whole is written with all its digits, and any other by a format that the program
chooses.
-/

namespace KeyJoin.Tools.Records

inductive Value
  | unset
  | number (value : Float)
  | text (text : RawText)
  | input (text : RawText)

/-! ## Numbers -/

/-- The whole number that is left when what follows the point is cut off. -/
def cutOff (x : Float) : Int :=
  if x.isNaN || x.isInf then 0
  else
    let exact := fractionOf x
    let size : Int := exact.numerator / exact.denominator
    if isNegativeFloat x then -size else size

/-- A whole number that a number is equal to. -/
def wholeValue? (x : Float) : Option Int :=
  if x.isNaN || x.isInf then none
  else
    let exact := fractionOf x
    if exact.numerator % exact.denominator = 0 then some (cutOff x) else none

/-- The remainder of a division, with the sign of the first number. -/
def floatRemainder (x y : Float) : Float :=
  if x.isNaN || y.isNaN || x.isInf || y == 0 then 0.0 / 0.0
  else if y.isInf then x
  else
    let a := fractionOf x
    let b := fractionOf y
    let common := max a.denominator b.denominator
    let rest := (a.numerator * (common / a.denominator)) % (b.numerator * (common / b.denominator))
    let size := Float.scaleB (Float.ofNat rest) (-(Nat.log2 common : Int))
    if isNegativeFloat x then -size else size

def calculate : Arithmetic → Float → Float → Float
  | .add, x, y => x + y
  | .subtract, x, y => x - y
  | .multiply, x, y => x * y
  | .divide, x, y => x / y
  | .remainder, x, y => floatRemainder x y
  | .power, x, y => x.pow y

def numberOfText (text : RawText) : Float :=
  ((readFloat? text).map (·.1)).getD 0

/-- The number that a text looks like: decimal, with blanks around it at most. -/
def likeNumber? (text : RawText) : Option Float :=
  match text.dropWhile isSpaceByte with
  | [] => none
  | sign :: rest =>
    let digits := if sign == '-' || sign == '+' then rest else sign :: rest
    match digits with
    | [] => none
    | first :: _ =>
      let isDecimal := (first.isDigit || first == '.') &&
        digits.all fun c => c != 'x' && c != 'X'
      match if isDecimal then readMagnitude? digits else none with
      | some (x, after) =>
        if after.all isSpaceByte then some (if sign == '-' then -x else x) else none
      | none => none

def Value.toNumber : Value → Float
  | .unset => 0
  | .number value => value
  | .text given | .input given => numberOfText given

/-- The number of a value that is compared as one. -/
def Value.likeNumber? : Value → Option Float
  | .unset => some 0
  | .number value => some value
  | .text _ => none
  | .input given => Records.likeNumber? given

def Value.isNumber : Value → Bool
  | .number _ => true
  | _ => false

def Value.holds : Value → Bool
  | .unset => false
  | .number value => value != 0
  | .text given => !given.isEmpty
  | .input given =>
    match Records.likeNumber? given with
    | some value => value != 0
    | none => !given.isEmpty

def ofBool (holds : Bool) : Value :=
  .number (if holds then 1 else 0)

/-! ## Formats -/

inductive FillFault
  | missingArgument
  | improperConversion (number : Nat)

/-- A format as it is being filled: the values left, the conversions done, and what has been
written, backwards and in pieces. -/
structure Filling where
  values : List Value
  done : Nat := 0
  out : List RawText := []

def Filling.put (filling : Filling) (text : RawText) : Filling :=
  { filling with out := text :: filling.out }

/-- The size of a number as a whole one of sixty-four bits. -/
def boundedSize (x : Float) : Int :=
  if x.isNaN || x.isInf then largestInteger else min ((integerModulus : Int) - 1) (cutOff x).natAbs

/-- A number as a whole one; below the least one of sixty-four bits it is kept away from it. -/
def boundedValue (x : Float) : Int :=
  if x.isNaN then smallestInteger
  else if x < 0 then
    let size := boundedSize x
    if size ≤ largestInteger + 1 then -size else -largestInteger
  else boundedSize x

/-- A number as one without sign, where a negative one counts from the end. -/
def boundedBits (x : Float) : Nat :=
  let size := boundedSize x
  ((if x.isNaN then smallestInteger else if x < 0 then -size else size) % (integerModulus : Int)).toNat

/-- What a conversion makes of a value. -/
def convertValue? (textOf : Value → RawText) (conversion : Conversion) (letter : Char)
    (value : Value) : Option RawText :=
  if letter == 's' then some (conversion.string (textOf value))
  else if letter == 'c' then
    let c := match value with
      | .number x => byteCharacter (cutOff x % 256).toNat
      | value => (textOf value).headD '\x00'
    some (conversion.pad [c])
  else if letter == 'd' || letter == 'i' then
    some (conversion.signedNumber (boundedValue value.toNumber))
  else if ['o', 'u', 'x', 'X'].contains letter then
    some (conversion.unsignedNumber letter (boundedBits value.toNumber))
  else if ['e', 'E', 'f', 'g', 'G'].contains letter then
    some (conversion.float letter value.toNumber)
  else none

/-- The count at the front of a text, which a star takes from the values, and what follows it. -/
def takeCount (filling : Filling) (text : RawText) :
    Except FillFault (Int × RawText × Filling) :=
  match text with
  | '*' :: rest =>
    match filling.values with
    | [] => .error .missingArgument
    | value :: values => .ok (cutOff value.toNumber, rest, { filling with values := values })
  | text =>
    let digits := text.takeWhile Char.isDigit
    .ok (readInBase 10 digits, text.drop digits.length, filling)

/-- Fills a conversion given the text after its mark, and gives what follows it. -/
def fillConversion (textOf : Value → RawText) (filling : Filling) (text : RawText) :
    Except FillFault (RawText × Filling) := do
  let flags := text.takeWhile Conversion.isFlag
  let (width, rest, filling) ← takeCount filling (text.drop flags.length)
  let (precision, rest, filling) ←
    match rest with
    | '.' :: rest => do
      let (precision, rest, filling) ← takeCount filling rest
      pure (some precision, rest, filling)
    | rest => pure (none, rest, filling)
  match filling.values with
  | [] => throw .missingArgument
  | value :: values =>
    let hasSize := rest.head? == some 'l' || rest.head? == some 'h'
    let rest := if hasSize then rest.drop 1 else rest
    let number := filling.done + 1
    match rest with
    | [] => throw (.improperConversion number)
    | letter :: after =>
      let conversion := Conversion.ofParts flags width precision
      let isWhole := ['d', 'i', 'o', 'u', 'x', 'X'].contains letter
      match if hasSize && !isWhole then none else convertValue? textOf conversion letter value with
      | none => throw (.improperConversion number)
      | some shown => return (after, { values := values, done := number, out := shown :: filling.out })

/-- Fills a format with values; a fault leaves out what would follow. -/
def fillFrom (textOf : Value → RawText) : Nat → Filling → RawText → Filling × Option FillFault
  | 0, filling, _ => (filling, none)
  | _, filling, [] => (filling, none)
  | fuel + 1, filling, '%' :: '%' :: rest => fillFrom textOf fuel (filling.put ['%']) rest
  | fuel + 1, filling, '%' :: rest =>
    match fillConversion textOf filling rest with
    | .ok (rest, filling) => fillFrom textOf fuel filling rest
    | .error fault => (filling, some fault)
  | fuel + 1, filling, c :: rest =>
    let plain := (c :: rest).takeWhile (· != '%')
    fillFrom textOf fuel (filling.put plain) ((c :: rest).drop plain.length)

def fillFormat (textOf : Value → RawText) (format : RawText) (values : List Value) :
    RawText × Option FillFault :=
  let (filling, fault) := fillFrom textOf (format.length + 1) { values := values } format
  (filling.out.reverse.flatten, fault)

/-! ## Texts -/

/-- A number as text: with all its digits if it is whole, and by a format if not. -/
def numberText (format : RawText) (x : Float) : RawText :=
  let whole? := (wholeValue? x).filter fun n =>
    decide (smallestInteger ≤ n ∧ n ≤ (integerModulus : Int))
  match whole? with
  | some n => integerText (min n ((integerModulus : Int) - 1))
  | none =>
    if x.isNaN then raw "-nan"
    else (fillFormat (fun _ => []) format [.number x]).1

def Value.toText (format : RawText) : Value → RawText
  | .unset => []
  | .number value => numberText format value
  | .text given | .input given => given

def compareFloats (x y : Float) : Ordering :=
  if x < y then .lt else if y < x then .gt else .eq

def compareValues (format : RawText) (a b : Value) : Ordering :=
  match a.likeNumber?, b.likeNumber? with
  | some x, some y => compareFloats x y
  | _, _ => compareRaw (a.toText format) (b.toText format)

def Comparison.holds : Comparison → Ordering → Bool
  | less, order => order == .lt
  | lessOrEqual, order => order != .gt
  | equal, order => order == .eq
  | notEqual, order => order != .eq
  | greater, order => order == .gt
  | greaterOrEqual, order => order != .lt

/-! ## Splitting -/

/-- What stands between the parts of a text. -/
inductive Separator
  | blanks
  | nothing
  | single (c : Char)
  | regex (regex : Regex)

/-- A match from a place on that takes at least one character. -/
def findVisible? (regex : Regex) (subject : Subject) (i : Nat) : Option RegexMatch :=
  (List.range' i (subject.text.size - i)).findSome? fun j =>
    (regex.matchAt? subject j).filter fun found => decide (found.first < found.last)

/-- The parts of a text between matches. -/
def splitByRegex (regex : Regex) (subject : Subject) : Nat → Nat → List RawText
  | 0, _ => []
  | fuel + 1, i =>
    match findVisible? regex subject i with
    | none => [(subject.text.extract i subject.text.size).toList]
    | some found =>
      (subject.text.extract i found.first).toList :: splitByRegex regex subject fuel found.last

def Separator.split (separator : Separator) (text : RawText) : List RawText :=
  if text.isEmpty then []
  else
    match separator with
    | .blanks => (text.splitOnP isSpaceByte).filter (!·.isEmpty)
    | .nothing => text.map ([·])
    | .single c => splitAtAll c text
    | .regex pattern => splitByRegex pattern (.ofText text) (text.length + 1) 0

/-! ## Replacing -/

/-- A replacement with a matched text for each mark that is not escaped.  Backslashes in front of a
mark stand for half as many. -/
def replacementText (matched : RawText) : Nat → RawText → RawText
  | 0, text => text
  | _, [] => []
  | fuel + 1, '&' :: rest => matched ++ replacementText matched fuel rest
  | fuel + 1, '\\' :: rest =>
    let count := 1 + (rest.takeWhile (· == '\\')).length
    match rest.drop (count - 1) with
    | '&' :: after =>
      List.replicate (count / 2) '\\' ++ (if count % 2 = 1 then ['&'] else matched) ++
        replacementText matched fuel after
    | after => List.replicate count '\\' ++ replacementText matched fuel after
  | fuel + 1, c :: rest => c :: replacementText matched fuel rest

/-- Replaces matches from a place on; an empty match right after another one does not count.  Gives
the new text and the number of matches. -/
def replaceFrom (regex : Regex) (replacement : RawText) (isGlobal : Bool) (subject : Subject) :
    Nat → Nat → Option Nat → RawText × Nat
  | 0, _, _ => ([], 0)
  | fuel + 1, i, lastEnd =>
    let between := fun (first last : Nat) => (subject.text.extract first last).toList
    match regex.findFrom? subject i with
    | none => (between i subject.text.size, 0)
    | some found =>
      let isEmpty := found.first == found.last
      if isEmpty && lastEnd == some found.first then
        if subject.text.size ≤ found.first then (between i subject.text.size, 0)
        else
          let (rest, count) :=
            replaceFrom regex replacement isGlobal subject fuel (found.first + 1) none
          (between i (found.first + 1) ++ rest, count)
      else
        let shown := replacementText (between found.first found.last) (replacement.length + 1)
          replacement
        let start := between i found.first ++ shown
        if !isGlobal then (start ++ between found.last subject.text.size, 1)
        else if isEmpty then
          if subject.text.size ≤ found.first then (start, 1)
          else
            let (rest, count) :=
              replaceFrom regex replacement isGlobal subject fuel (found.first + 1) none
            (start ++ between found.first (found.first + 1) ++ rest, count + 1)
        else
          let (rest, count) :=
            replaceFrom regex replacement isGlobal subject fuel found.last (some found.last)
          (start ++ rest, count + 1)

def replaceMatches (regex : Regex) (replacement : RawText) (isGlobal : Bool) (text : RawText) :
    RawText × Nat :=
  replaceFrom regex replacement isGlobal (.ofText text) (text.length + 2) 0 none

/-! ## Parts -/

/-- The part of a text from a place on and of a length; places count from one. -/
def partOf (text : RawText) (first : Float) (length : Option Float) : RawText :=
  let start := cutOff first
  let from_ := (max start 1 - 1).toNat
  match length with
  | none => text.drop from_
  | some length =>
    if length.isNaN then []
    else
      let count := if length.isInf then (if length < 0 then 0 else (text.length : Int) + start.natAbs)
        else cutOff length
      let count := if start < 1 then count + start - 1 else count
      (text.drop from_).take count.toNat

/-- The place of a text within another one, counted from one, or zero. -/
def placeOf (part text : RawText) : Nat :=
  if part.isEmpty then (if text.isEmpty then 0 else 1)
  else
    let rec go : Nat → RawText → Nat
      | _, [] => 0
      | place, c :: rest => if part.isPrefixOf (c :: rest) then place else go (place + 1) rest
    go 1 text

end KeyJoin.Tools.Records
