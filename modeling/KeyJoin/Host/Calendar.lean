import KeyJoin.Host.RawText

/-!
# The calendar

Times are counted in seconds from the beginning of a year, and shown as a year,
a month, a day and a time of the day.  Days are counted in cycles of four
hundred years, each of which begins on the first of March, so that the day that
only some years have is the last of its year.
-/

namespace KeyJoin

/-- A time of a calendar.  Months and days of a month count from one; weekdays count from Sunday and
days of a year from the first of January, both from zero. -/
structure CivilTime where
  year : Int
  month : Nat
  day : Nat
  hour : Nat
  minute : Nat
  second : Nat
  weekday : Nat
  yearDay : Nat
  deriving DecidableEq, Repr

namespace CivilTime

def daysInCycle : Int := 146097

def secondsInDay : Int := 86400

/-- The number of a month within a year that begins in March. -/
def monthFromMarch (month : Nat) : Int :=
  if 2 < month then month - 3 else month + 9

/-- The days from the first of January 1970 to a date; the day may lie outside its month. -/
def daysTo (year : Int) (month : Nat) (day : Int) : Int :=
  let year := if 2 < month then year else year - 1
  let cycle := year.fdiv 400
  let yearOfCycle := year - cycle * 400
  let dayOfYear := (153 * monthFromMarch month + 2).fdiv 5 + day - 1
  let dayOfCycle := yearOfCycle * 365 + yearOfCycle.fdiv 4 - yearOfCycle.fdiv 100 + dayOfYear
  cycle * daysInCycle + dayOfCycle - 719468

/-- The year, month and day after a number of days. -/
def dateAfter (days : Int) : Int × Nat × Nat :=
  let shifted := days + 719468
  let cycle := shifted.fdiv daysInCycle
  let dayOfCycle := shifted - cycle * daysInCycle
  let yearOfCycle :=
    (dayOfCycle - dayOfCycle.fdiv 1460 + dayOfCycle.fdiv 36524 - dayOfCycle.fdiv 146096).fdiv 365
  let dayOfYear :=
    dayOfCycle - (365 * yearOfCycle + yearOfCycle.fdiv 4 - yearOfCycle.fdiv 100)
  let march := (5 * dayOfYear + 2).fdiv 153
  let day := dayOfYear - (153 * march + 2).fdiv 5 + 1
  let month := if march < 10 then march + 3 else march - 9
  (yearOfCycle + cycle * 400 + (if month ≤ 2 then 1 else 0), month.toNat, day.toNat)

/-- The time after a number of seconds. -/
def ofSeconds (seconds : Int) : CivilTime :=
  let days := seconds.fdiv secondsInDay
  let rest := (seconds - days * secondsInDay).toNat
  let (year, month, day) := dateAfter days
  { year := year, month := month, day := day
    hour := rest / 3600, minute := rest / 60 % 60, second := rest % 60
    weekday := ((days + 4).fmod 7).toNat
    yearDay := (days - daysTo year 1 1).toNat }

/-- The seconds to a time of a day; months beyond the year and other numbers out of range count on. -/
def secondsTo (year month day hour minute second : Int) : Int :=
  let months := year * 12 + (month - 1)
  let days := daysTo (months.fdiv 12) ((months.fmod 12).toNat + 1) day
  days * secondsInDay + hour * 3600 + minute * 60 + second

def daysInMonth (year : Int) (month : Nat) : Int :=
  let next := if month = 12 then daysTo (year + 1) 1 1 else daysTo year (month + 1) 1
  next - daysTo year month 1

/-! ## Weeks -/

/-- The number of the week in a year whose weeks begin on a weekday. -/
def weekFrom (first : Nat) (time : CivilTime) : Nat :=
  (time.yearDay + 7 - (time.weekday + 7 - first) % 7) / 7

/-- The year and the number of a week that belongs to the year of its Thursday. -/
def weekOfThursday (time : CivilTime) : Int × Nat :=
  let fromMonday := (time.weekday + 6) % 7
  let days := daysTo time.year time.month time.day + 3 - fromMonday
  let (year, _, _) := dateAfter days
  (year, ((days - daysTo year 1 1) / 7).toNat + 1)

end CivilTime

def weekdayNames : List String :=
  ["Sunday", "Monday", "Tuesday", "Wednesday", "Thursday", "Friday", "Saturday"]

def monthNames : List String :=
  ["January", "February", "March", "April", "May", "June", "July", "August", "September",
    "October", "November", "December"]

/-- A time zone that is always the same number of seconds ahead. -/
structure TimeZone where
  name : RawText
  ahead : Int

def universalZone : TimeZone := ⟨raw "UTC", 0⟩

namespace TimeZone

/-- Reads hours, and minutes and seconds behind colons. -/
def readOffset (text : RawText) : Option (Int × RawText) :=
  let (isNegative, body) :=
    match text with
    | '-' :: rest => (true, rest)
    | '+' :: rest => (false, rest)
    | _ => (false, text)
  let digits := body.takeWhile Char.isDigit
  if digits.isEmpty || 3 < digits.length then none
  else
    let rec parts : Nat → Nat → RawText → Int × RawText
      | 0, _, rest => (0, rest)
      | fuel + 1, unit, ':' :: rest =>
        let digits := rest.takeWhile Char.isDigit
        let (more, rest) := parts fuel (unit / 60) (rest.drop digits.length)
        (readInBase 10 digits * unit + more, rest)
      | _, _, rest => (0, rest)
    let (more, rest) := parts 2 60 (body.drop digits.length)
    let seconds := (readInBase 10 digits : Int) * 3600 + more
    some (if isNegative then -seconds else seconds, rest)

/-- The zone that a text names: a name, and how far it is behind. -/
def ofText (text : RawText) : TimeZone :=
  let text := if text.head? == some ':' then text.drop 1 else text
  let (name, rest) :=
    match text with
    | '<' :: rest => (rest.takeWhile (· != '>'), rest.drop ((rest.takeWhile (· != '>')).length + 1))
    | _ => (text.takeWhile Char.isAlpha, text.drop (text.takeWhile Char.isAlpha).length)
  if name.length < 3 then universalZone
  else
    match readOffset rest with
    | some (behind, _) => ⟨name, -behind⟩
    | none => ⟨name, 0⟩

end TimeZone

end KeyJoin
