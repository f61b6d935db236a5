import KeyJoin.Host.Calendar

/-!
# Dates as text

A format holds fields that stand for parts of a time.  Between the mark of a
field and its letter there may be flags, which say how the field is filled up
and in which case it is written, and a width.
-/

namespace KeyJoin.Tools.Dates

/-- A time as it is shown in a zone. -/
structure Moment where
  seconds : Int
  nanoseconds : Nat := 0
  zone : TimeZone := universalZone

def Moment.civil (moment : Moment) : CivilTime :=
  CivilTime.ofSeconds (moment.seconds + moment.zone.ahead)

/-- How a field is written. -/
structure FieldStyle where
  fill : Option Char := none
  isUpper : Bool := false
  isSwapped : Bool := false
  width : Option Nat := none
  colons : Nat := 0

namespace FieldStyle

/-- A number with at least some digits. -/
def number (style : FieldStyle) (fill : Char) (digits : Nat) (n : Int) : RawText :=
  let width := style.width.getD digits
  let sign := if n < 0 then ['-'] else []
  let body := naturalText n.natAbs
  match style.fill.getD fill with
  | '-' => sign ++ body
  | '_' => padLeft width (sign ++ body)
  | '+' =>
    let needsSign := decide (0 ≤ n) && (decide (digits < body.length) || decide (digits < width))
    let sign := if needsSign then ['+'] else sign
    sign ++ padZeros (width - sign.length) body
  | _ => sign ++ padZeros (width - sign.length) body

def filled (style : FieldStyle) (text : RawText) : RawText :=
  let width := style.width.getD 0
  match style.fill with
  | some '-' => text
  | some '0' | some '+' => padZeros width text
  | _ => padLeft width text

/-- A text; `swaps` is what becomes of it if the other case is asked for. -/
def text (style : FieldStyle) (swaps : Char → Char) (text : RawText) : RawText :=
  style.filled
    (if style.isUpper then text.map Char.toUpper
      else if style.isSwapped then text.map swaps
      else text)

end FieldStyle

/-- How far a zone is ahead, with as many colons as are asked for; the hours are filled up. -/
def zoneText (style : FieldStyle) (ahead : Int) : RawText :=
  let sign := if ahead < 0 then '-' else '+'
  let n := ahead.natAbs
  let two := fun (n : Nat) => padZeros 2 (naturalText n)
  let hours := naturalText (n / 3600)
  let minutes := ':' :: two (n / 60 % 60)
  let seconds := ':' :: two (n % 60)
  let (body, width) :=
    match style.colons with
    | 0 => (naturalText (n / 3600 * 100 + n / 60 % 60), 5)
    | 1 => (hours ++ minutes, 6)
    | 2 => (hours ++ minutes ++ seconds, 9)
    | _ =>
      if n % 60 != 0 then (hours ++ minutes ++ seconds, 9)
      else if n / 60 % 60 != 0 then (hours ++ minutes, 6)
      else (hours, 3)
  let width := style.width.getD width
  match style.fill with
  | some '-' => sign :: body
  | some '_' => padLeft width (sign :: body)
  | _ => sign :: padZeros (width - 1) body

/-- Billionths of a second, as many digits as the width says. -/
def fractionText (style : FieldStyle) (nanoseconds : Nat) : RawText :=
  let width := match style.width with
    | some 0 | none => 9
    | some width => width
  let digits := (padZeros 9 (naturalText nanoseconds)).take width
  let kept := trimEndOf (· == '0') digits
  let kept := if kept.isEmpty then ['0'] else kept
  match style.fill with
  | some '-' => if style.width.any (· != 0) then kept else digits
  | some '_' => padRight width kept
  | _ => kept ++ List.replicate (width - kept.length) '0'

def hourOfTwelve (hour : Nat) : Nat :=
  if hour % 12 = 0 then 12 else hour % 12

/-- The format that a letter is short for. -/
def longFormat? : Char → Option String
  | 'c' => some "%a %b %e %H:%M:%S %Y"
  | 'D' | 'x' => some "%m/%d/%y"
  | 'r' => some "%I:%M:%S %p"
  | 'R' => some "%H:%M"
  | 'T' | 'X' => some "%H:%M:%S"
  | _ => none

/-- A field of its own. -/
def fieldText? (moment : Moment) (style : FieldStyle) (letter : Char) : Option RawText :=
  let time := moment.civil
  let zeros := style.number '0'
  let blanks := style.number '_'
  let weekday := weekdayNames.getD time.weekday ""
  let month := monthNames.getD (time.month - 1) ""
  let (weekYear, week) := time.weekOfThursday
  match letter with
  | '%' => some ['%']
  | 'n' => some (style.filled ['\n'])
  | 't' => some (style.filled ['\t'])
  | 'a' => some (style.text Char.toUpper ((raw weekday).take 3))
  | 'A' => some (style.text Char.toUpper (raw weekday))
  | 'b' | 'h' => some (style.text Char.toUpper ((raw month).take 3))
  | 'B' => some (style.text Char.toUpper (raw month))
  | 'C' => some (zeros 2 (time.year.fdiv 100))
  | 'd' => some (zeros 2 time.day)
  | 'e' => some (blanks 2 time.day)
  | 'F' =>
    let after := '-' :: padZeros 2 (naturalText time.month) ++
      '-' :: padZeros 2 (naturalText time.day)
    let style := { style with width := style.width.map (· - 6) }
    some (style.number '+' 4 time.year ++ after)
  | 'g' => some (zeros 2 (weekYear.fmod 100))
  | 'G' => some (zeros 4 weekYear)
  | 'H' => some (zeros 2 time.hour)
  | 'I' => some (zeros 2 (hourOfTwelve time.hour))
  | 'j' => some (zeros 3 (time.yearDay + 1))
  | 'k' => some (blanks 2 time.hour)
  | 'l' => some (blanks 2 (hourOfTwelve time.hour))
  | 'm' => some (zeros 2 time.month)
  | 'M' => some (zeros 2 time.minute)
  | 'N' => some (fractionText style moment.nanoseconds)
  | 'p' => some (style.text Char.toLower (if time.hour < 12 then raw "AM" else raw "PM"))
  | 'P' => some (style.text Char.toLower (if time.hour < 12 then raw "am" else raw "pm"))
  | 'q' => some (zeros 1 ((time.month - 1) / 3 + 1))
  | 's' => some (zeros 1 moment.seconds)
  | 'S' => some (zeros 2 time.second)
  | 'u' => some (zeros 1 ((time.weekday + 6) % 7 + 1))
  | 'U' => some (zeros 2 (time.weekFrom 0))
  | 'V' => some (zeros 2 week)
  | 'w' => some (zeros 1 time.weekday)
  | 'W' => some (zeros 2 (time.weekFrom 1))
  | 'y' => some (zeros 2 (time.year.fmod 100))
  | 'Y' => some (zeros 4 time.year)
  | 'z' => some (zoneText style moment.zone.ahead)
  | 'Z' => some (style.text Char.toLower moment.zone.name)
  | _ => none

/-- The flags, the width and the colons in front of a letter. -/
def readFieldStyle : Nat → FieldStyle → RawText → FieldStyle × RawText
  | 0, style, text => (style, text)
  | fuel + 1, style, c :: rest =>
    if ['-', '_', '0', '+'].contains c then
      readFieldStyle fuel { style with fill := some c } rest
    else if c == '^' then readFieldStyle fuel { style with isUpper := true } rest
    else if c == '#' then readFieldStyle fuel { style with isSwapped := true } rest
    else
      let digits := (c :: rest).takeWhile Char.isDigit
      let style :=
        if digits.isEmpty then style else { style with width := some (readInBase 10 digits) }
      let rest := (c :: rest).drop digits.length
      let colons := rest.takeWhile (· == ':')
      let rest := rest.drop colons.length
      let rest :=
        match rest with
        | 'E' :: d :: more => if d.isAlpha then d :: more else rest
        | 'O' :: d :: more => if d.isAlpha then d :: more else rest
        | _ => rest
      ({ style with colons := colons.length }, rest)
  | _, style, [] => (style, [])

/-- Fills a format; what is no field stays as it is. -/
def formatMoment (moment : Moment) : Nat → RawText → RawText
  | 0, _ => []
  | _, [] => []
  | fuel + 1, '%' :: text =>
    let (style, rest) := readFieldStyle (text.length + 1) {} text
    let kept := '%' :: text.take (text.length - rest.length)
    match rest with
    | [] => kept
    | letter :: rest =>
      if letter == '%' && 1 < kept.length then
        style.filled kept ++ formatMoment moment fuel (letter :: rest)
      else
        let unknown := style.filled (kept ++ [letter])
        let shown :=
          if 0 < style.colons && letter != 'z' || 3 < style.colons then unknown
          else
            match longFormat? letter with
            | some format => style.text Char.toUpper (formatMoment moment fuel (raw format))
            | none => (fieldText? moment style letter).getD unknown
        shown ++ formatMoment moment fuel rest
  | fuel + 1, c :: text => c :: formatMoment moment fuel text

/-- Fills a format for a moment. -/
def Moment.format (moment : Moment) (format : RawText) : RawText :=
  formatMoment moment (format.length + 30) format

end KeyJoin.Tools.Dates
