import KeyJoin.Host.RawText

/-!
# Conversions of formats

A conversion lays down how one value is written: its width, its precision, and
what stands in front of it or fills it up.  Numbers with a binary point are
written from their exact value, and a tie goes to the even digit.
-/

namespace KeyJoin

/-- The number of values of sixty-four bits. -/
def integerModulus : Nat := 18446744073709551616

def largestInteger : Int := 9223372036854775807

def smallestInteger : Int := -9223372036854775808

structure Conversion where
  leftAligned : Bool := false
  zeroPadded : Bool := false
  signed : Bool := false
  spaced : Bool := false
  alternate : Bool := false
  width : Nat := 0
  precision : Option Nat := none

namespace Conversion

def isFlag (c : Char) : Bool :=
  ['#', '-', '+', ' ', '0'].contains c

/-- The conversion with the given flags; a width below zero asks for alignment to the left. -/
def ofParts (flags : RawText) (width : Int) (precision : Option Int) : Conversion :=
  { leftAligned := flags.contains '-' || decide (width < 0)
    zeroPadded := flags.contains '0'
    signed := flags.contains '+'
    spaced := flags.contains ' '
    alternate := flags.contains '#'
    width := width.natAbs
    precision := precision.bind fun n => if n < 0 then none else some n.toNat }

def pad (conversion : Conversion) (text : RawText) : RawText :=
  if conversion.leftAligned then padRight conversion.width text else padLeft conversion.width text

def string (conversion : Conversion) (text : RawText) : RawText :=
  conversion.pad
    (match conversion.precision with
      | some precision => text.take precision
      | none => text)

def signOf (conversion : Conversion) (isNegative : Bool) : RawText :=
  if isNegative then ['-']
  else if conversion.signed then ['+']
  else if conversion.spaced then [' ']
  else []

/-- What stands in front, and digits that zeros may fill up to the width. -/
def filled (conversion : Conversion) (start digits : RawText) : RawText :=
  let digits :=
    if conversion.zeroPadded && !conversion.leftAligned then
      padZeros (conversion.width - start.length) digits
    else digits
  conversion.pad (start ++ digits)

/-- The digits of a whole number, at least as many as the precision asks for. -/
def whole (conversion : Conversion) (start digits : RawText) : RawText :=
  match conversion.precision with
  | none => conversion.filled start digits
  | some precision =>
    let digits := if precision = 0 && digits == ['0'] then [] else padZeros precision digits
    conversion.pad (start ++ digits)

def signedNumber (conversion : Conversion) (value : Int) : RawText :=
  conversion.whole (conversion.signOf (decide (value < 0))) (naturalText value.natAbs)

/-- A number without sign in the base that a letter names. -/
def unsignedNumber (conversion : Conversion) (letter : Char) (value : Nat) : RawText :=
  match letter with
  | 'o' =>
    let digits := digitsInBase 8 value
    conversion.whole [] (if conversion.alternate && value != 0 then '0' :: digits else digits)
  | 'x' =>
    conversion.whole (if conversion.alternate && value != 0 then ['0', 'x'] else [])
      (digitsInBase 16 value)
  | 'X' =>
    conversion.whole (if conversion.alternate && value != 0 then ['0', 'X'] else [])
      ((digitsInBase 16 value).map Char.toUpper)
  | _ => conversion.whole [] (naturalText value)

end Conversion

/-! ## Numbers with a binary point -/

/-- The quotient rounded to the nearest whole number, a tie to the even one. -/
def roundedQuotient (numerator denominator : Nat) : Nat :=
  let q := numerator / denominator
  let twice := 2 * (numerator % denominator)
  if denominator < twice || (twice == denominator && q % 2 == 1) then q + 1 else q

/-- A number that is not negative, as an exact fraction. -/
structure Fraction where
  numerator : Nat
  denominator : Nat

/-- The sign, and the magnitude as a whole number times a power of two. -/
def binaryParts (x : Float) : Bool × Nat × Int :=
  let bits : Nat := x.toBits.toNat
  let exponent : Nat := bits / twoTo 52 % 2048
  let mantissa : Nat := bits % twoTo 52
  (bits / twoTo 63 == 1,
    if exponent = 0 then (mantissa, (-1074 : Int)) else (mantissa + twoTo 52, (exponent : Int) - 1075))

def fractionOf (x : Float) : Fraction :=
  let (_, mantissa, exponent) := binaryParts x
  if exponent < 0 then ⟨mantissa, twoTo exponent.natAbs⟩ else ⟨mantissa * twoTo exponent.toNat, 1⟩

def isNegativeFloat (x : Float) : Bool :=
  (binaryParts x).1

/-- The digits of a fraction with the given number of them after the point. -/
def fixedDigits (x : Fraction) (places : Nat) (showsPoint : Bool) : RawText :=
  let digits :=
    padZeros (places + 1) (naturalText (roundedQuotient (x.numerator * tenTo places) x.denominator))
  let whole := digits.take (digits.length - places)
  if places = 0 then (if showsPoint then whole ++ ['.'] else whole)
  else whole ++ '.' :: digits.drop whole.length

/-- The exponent of ten of a fraction's first digit, tried downwards from a bound. -/
def decimalExponent (x : Fraction) : Int :=
  let guess : Int := (Nat.toDigits 10 x.numerator).length - (Nat.toDigits 10 x.denominator).length
  let isAtLeast := fun (exponent : Int) =>
    if exponent < 0 then decide (x.denominator ≤ x.numerator * tenTo exponent.natAbs)
    else decide (x.denominator * tenTo exponent.toNat ≤ x.numerator)
  if isAtLeast guess then guess else guess - 1

/-- The digits of a fraction with the given number of them after the first, and the exponent. -/
def scientificDigits (x : Fraction) (places : Nat) : RawText × Int :=
  if x.numerator = 0 then (List.replicate (places + 1) '0', 0)
  else
    let exponent := decimalExponent x
    let shift := (places : Int) - exponent
    let rounded :=
      if shift < 0 then roundedQuotient x.numerator (x.denominator * tenTo shift.natAbs)
      else roundedQuotient (x.numerator * tenTo shift.toNat) x.denominator
    if rounded = tenTo (places + 1) then (naturalText (rounded / 10), exponent + 1)
    else (naturalText rounded, exponent)

def exponentText (exponent : Int) : RawText :=
  'e' :: (if exponent < 0 then '-' else '+') :: padZeros 2 (naturalText exponent.natAbs)

def scientificText (x : Fraction) (places : Nat) (showsPoint : Bool) : RawText :=
  let (digits, exponent) := scientificDigits x places
  let point := if places = 0 && !showsPoint then [] else ['.']
  digits.take 1 ++ point ++ digits.drop 1 ++ exponentText exponent

/-- A text without the zeros at the end of its places, and without the point if none is left. -/
def withoutEndZeros (text : RawText) : RawText :=
  if text.contains '.' then trimEndOf (· == '.') (trimEndOf (· == '0') text) else text

/-- The shorter way of writing a fraction with a number of significant digits. -/
def generalText (x : Fraction) (precision : Nat) (keepsZeros : Bool) : RawText :=
  let digits := max precision 1
  let (shown, exponent) := scientificDigits x (digits - 1)
  if -4 ≤ exponent && exponent < digits then
    let text := fixedDigits x ((digits : Int) - 1 - exponent).toNat keepsZeros
    if keepsZeros then text else withoutEndZeros text
  else
    let mantissa := shown.take 1 ++ '.' :: shown.drop 1
    (if keepsZeros then mantissa else withoutEndZeros mantissa) ++ exponentText exponent

/-- The hexadecimal digits of a number with its exponent of two. -/
def hexadecimalText (x : Float) (precision : Option Nat) (showsPoint : Bool) : RawText :=
  let (_, mantissa, exponent) := binaryParts x
  if mantissa = 0 then
    raw "0" ++ (match precision with
      | some (n + 1) => '.' :: List.replicate (n + 1) '0'
      | _ => if showsPoint then ['.'] else []) ++ raw "p+0"
  else
    let bits := Nat.log2 mantissa
    let scaled := mantissa * twoTo (52 - bits)
    let exponent := exponent + bits
    let (lead, places) :=
      match precision with
      | some n =>
        if n < 13 then
          let rounded := roundedQuotient scaled (twoTo (52 - 4 * n))
          (rounded / twoTo (4 * n), padZeros n (digitsInBase 16 (rounded % twoTo (4 * n))) |>.take n)
        else (1, padRight n (padZeros 13 (digitsInBase 16 (scaled % twoTo 52))) |>.map fun c =>
          if c == ' ' then '0' else c)
      | none => (1, trimEndOf (· == '0') (padZeros 13 (digitsInBase 16 (scaled % twoTo 52))))
    let point := if places.isEmpty && !showsPoint then [] else ['.']
    digitsInBase 16 lead ++ point ++ places ++ ['p', if exponent < 0 then '-' else '+'] ++
      naturalText exponent.natAbs

def Conversion.float (conversion : Conversion) (letter : Char) (x : Float) : RawText :=
  let isUpper := letter.isUpper
  let raised := fun (text : RawText) => if isUpper then text.map Char.toUpper else text
  let isNegative := isNegativeFloat x
  let sign := conversion.signOf isNegative
  if x.isNaN then conversion.pad (sign ++ raised (raw "nan"))
  else if x.isInf then conversion.pad (sign ++ raised (raw "inf"))
  else
    let value := fractionOf x
    let precision := conversion.precision.getD 6
    match letter.toLower with
    | 'f' => conversion.filled sign (fixedDigits value precision conversion.alternate)
    | 'e' => conversion.filled sign (raised (scientificText value precision conversion.alternate))
    | 'a' =>
      conversion.filled (sign ++ raised (raw "0x"))
        (raised (hexadecimalText x conversion.precision conversion.alternate))
    | _ => conversion.filled sign (raised (generalText value precision conversion.alternate))

/-! ## Reading -/

/-- The number that decimal digits, a number of places and an exponent give. -/
def floatOfDecimal (digits : RawText) (places : Nat) (exponent : Int) : Float :=
  let mantissa := readInBase 10 digits
  let exponent := exponent - places
  if mantissa = 0 then 0
  else if exponent < 0 then
    if 100000 < exponent.natAbs then 0 else Float.ofScientific mantissa true exponent.natAbs
  else if 400 < exponent then 1.0 / 0.0
  else Float.ofScientific mantissa false exponent.toNat

/-- An exponent after its letter, and what follows it. -/
def readExponent? (text : RawText) : Option (Int × RawText) :=
  let (isNegative, digits) :=
    match text with
    | '-' :: rest => (true, rest)
    | '+' :: rest => (false, rest)
    | _ => (false, text)
  let taken := digits.takeWhile Char.isDigit
  if taken.isEmpty then none
  else
    let value : Int := readInBase 10 taken
    some (if isNegative then -value else value, digits.drop taken.length)

def startsWithFolded (word : String) (text : RawText) : Bool :=
  (text.take word.length).map Char.toLower == word.toList

/-- The digits at the front of a text around at most one point, how many stand after it, and what
follows them. -/
def readPlaces (isDigit : Char → Bool) (text : RawText) : RawText × Nat × RawText :=
  let whole := text.takeWhile isDigit
  match text.drop whole.length with
  | '.' :: rest =>
    let places := rest.takeWhile isDigit
    if whole.isEmpty && places.isEmpty then ([], 0, text)
    else (whole ++ places, places.length, rest.drop places.length)
  | rest => (whole, 0, rest)

/-- The number without sign at the front of a text, and what follows it. -/
def readMagnitude? (text : RawText) : Option (Float × RawText) :=
  let decimal : Option (Float × RawText) :=
    let (digits, places, rest) := readPlaces Char.isDigit text
    if digits.isEmpty then none
    else
      let (exponent, rest) :=
        match rest with
        | e :: after =>
          if e == 'e' || e == 'E' then (readExponent? after).getD (0, rest) else (0, rest)
        | [] => (0, rest)
      some (floatOfDecimal digits places exponent, rest)
  match text with
  | '0' :: x :: after =>
    if x == 'x' || x == 'X' then
      let (digits, places, rest) := readPlaces isHexDigit after
      if digits.isEmpty then decimal
      else
        let (exponent, rest) :=
          match rest with
          | p :: after =>
            if p == 'p' || p == 'P' then (readExponent? after).getD (0, rest) else (0, rest)
          | [] => (0, rest)
        let exponent := exponent - 4 * places
        some (Float.scaleB (Float.ofNat (readInBase 16 digits)) exponent, rest)
    else decimal
  | _ =>
    if startsWithFolded "infinity" text then some (1.0 / 0.0, text.drop 8)
    else if startsWithFolded "inf" text then some (1.0 / 0.0, text.drop 3)
    else if startsWithFolded "nan" text then some (Float.ofBits 0x7ff8000000000000, text.drop 3)
    else decimal

/-- The number at the front of a text, after blanks and an optional sign, and what follows it. -/
def readFloat? (text : RawText) : Option (Float × RawText) :=
  match text.dropWhile isSpaceByte with
  | '-' :: rest => (readMagnitude? rest).map fun (x, rest) => (-x, rest)
  | '+' :: rest => readMagnitude? rest
  | text => readMagnitude? text

end KeyJoin
