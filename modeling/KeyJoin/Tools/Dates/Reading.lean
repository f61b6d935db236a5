import KeyJoin.Host.Calendar

/-!
# Reading dates

A date is described by words and numbers in almost any order: a day of the
calendar, a time of the day, a weekday, a zone, and shifts from the time that
is taken for now.  Each kind of part but the shifts may stand only once.  What
is not said is taken from the present, and a time of the day that is not said is
midnight unless only shifts are given.
-/

namespace KeyJoin.Tools.Dates

/-- A part of a description. -/
inductive DateToken
  | number (digits : RawText) (fraction : RawText)
  | signed (isNegative : Bool) (digits : RawText) (fraction : RawText)
  | word (text : RawText)
  | mark (c : Char)
  deriving DecidableEq

/-- The text behind a remark in brackets, within `depth` of which it starts. -/
def skipRemark : Nat → RawText → RawText
  | _, [] => []
  | depth, '(' :: rest => skipRemark (depth + 1) rest
  | depth, ')' :: rest => if depth ≤ 1 then rest else skipRemark (depth - 1) rest
  | depth, _ :: rest => skipRemark depth rest

/-- Digits at the start, and those behind a point. -/
def readDigits (text : RawText) : RawText × RawText × RawText :=
  let digits := text.takeWhile Char.isDigit
  match text.drop digits.length with
  | c :: d :: rest =>
    if (c == '.' || c == ',') && d.isDigit then
      let fraction := (d :: rest).takeWhile Char.isDigit
      (digits, fraction, (d :: rest).drop fraction.length)
    else (digits, [], c :: d :: rest)
  | rest => (digits, [], rest)

def dateTokens : Nat → RawText → List DateToken
  | 0, _ => []
  | _, [] => []
  | fuel + 1, c :: rest =>
    if isSpaceByte c then dateTokens fuel rest
    else if c == '(' then dateTokens fuel (skipRemark 1 rest)
    else if c.isDigit then
      let (digits, fraction, rest) := readDigits (c :: rest)
      .number digits fraction :: dateTokens fuel rest
    else if c == '-' || c == '+' then
      let rest := rest.dropWhile isSpaceByte
      if (rest.head?.map Char.isDigit).getD false then
        let (digits, fraction, rest) := readDigits rest
        .signed (c == '-') digits fraction :: dateTokens fuel rest
      else dateTokens fuel rest
    else if c.isAlpha then
      let word := (c :: rest).takeWhile fun d => d.isAlpha || d == '.'
      .word (word.map Char.toLower) :: dateTokens fuel ((c :: rest).drop word.length)
    else .mark c :: dateTokens fuel rest

/-! ## Words -/

inductive DateUnit
  | year
  | month
  | day (count : Nat)
  | hour
  | minute
  | second
  deriving DecidableEq

inductive DateWord
  | month (n : Nat)
  | weekday (n : Nat)
  | afternoon (isAfternoon : Bool)
  | unit (unit : DateUnit)
  | dayShift (n : Int)
  | ordinal (n : Int)
  | ago (sign : Int)
  | zone (ahead : Int)
  | summer
  | timeMark
  deriving DecidableEq

def unitWords : List (String × DateUnit) :=
  [("year", .year), ("month", .month), ("fortnight", .day 14), ("week", .day 7), ("day", .day 1),
    ("hour", .hour), ("minute", .minute), ("min", .minute), ("second", .second), ("sec", .second)]

def shiftWords : List (String × DateWord) :=
  [("tomorrow", .dayShift 1), ("yesterday", .dayShift (-1)), ("today", .dayShift 0),
    ("now", .dayShift 0), ("last", .ordinal (-1)), ("this", .ordinal 0), ("next", .ordinal 1),
    ("first", .ordinal 1), ("third", .ordinal 3), ("fourth", .ordinal 4), ("fifth", .ordinal 5),
    ("sixth", .ordinal 6), ("seventh", .ordinal 7), ("eighth", .ordinal 8), ("ninth", .ordinal 9),
    ("tenth", .ordinal 10), ("eleventh", .ordinal 11), ("twelfth", .ordinal 12), ("ago", .ago (-1)),
    ("hence", .ago 1)]

/-- Zones with the hours that they are ahead, doubled. -/
def zoneWords : List (String × Int) :=
  [("gmt", 0), ("ut", 0), ("utc", 0), ("wet", 0), ("west", 2), ("bst", 2), ("art", -6), ("brt", -6),
    ("brst", -4), ("nst", -7), ("ndt", -5), ("ast", -8), ("adt", -6), ("clt", -8), ("clst", -6),
    ("est", -10), ("edt", -8), ("cst", -12), ("cdt", -10), ("mst", -14), ("mdt", -12), ("pst", -16),
    ("pdt", -14), ("akst", -18), ("akdt", -16), ("hst", -20), ("hast", -20), ("hadt", -18),
    ("sst", -24), ("wat", 2), ("cet", 2), ("cest", 4), ("met", 2), ("mez", 2), ("mest", 4),
    ("mesz", 4), ("eet", 4), ("eest", 6), ("cat", 4), ("sast", 4), ("eat", 6), ("msk", 6),
    ("msd", 8), ("ist", 11), ("sgt", 16), ("kst", 18), ("jst", 18), ("gst", 20), ("nzst", 24),
    ("nzdt", 26)]

/-- The place of the name that a word stands for: in full, or its first three letters. -/
def nameIndex? (names : List String) (word : RawText) : Option Nat :=
  let isShort := word.length = 3 || (word.length = 4 && word.getLast? == some '.')
  names.findIdx? fun name =>
    let name := (raw name).map Char.toLower
    name == word || (isShort && name.take 3 == word.take 3)

def otherNames : List (String × DateWord) :=
  [("sept", .month 9), ("tues", .weekday 2), ("wednes", .weekday 3), ("thur", .weekday 4),
    ("thurs", .weekday 4)]

/-- The zone of a single letter. -/
def letterZone? (c : Char) : Option Int :=
  let n : Int := c.toNat
  if c == 'z' then some 0
  else if 'a' ≤ c ∧ c ≤ 'i' then some (n - 96)
  else if 'k' ≤ c ∧ c ≤ 'm' then some (n - 97)
  else if 'n' ≤ c ∧ c ≤ 'y' then some (109 - n)
  else none

def lookupDateWord (word : RawText) : Option DateWord :=
  let text := String.ofList word
  let isPlural := word.getLast? == some 's'
  let unit? := fun (word : RawText) => (unitWords.lookup (String.ofList word)).map DateWord.unit
  let halfHours := fun (n : Int) => DateWord.zone (n * 1800)
  (match text with
    | "am" | "a.m." => some (DateWord.afternoon false)
    | "pm" | "p.m." => some (.afternoon true)
    | "dst" => some .summer
    | "t" => some .timeMark
    | _ => none) <|>
  (nameIndex? monthNames word).map (fun n => .month (n + 1)) <|>
  (nameIndex? weekdayNames word).map .weekday <|>
  otherNames.lookup text <|>
  (zoneWords.lookup text).map halfHours <|>
  unit? word <|>
  (if isPlural then unit? word.dropLast else none) <|>
  shiftWords.lookup text <|>
  (match word with
    | [c] => (letterZone? c).map fun hours => .zone (hours * 3600)
    | _ => none)

def dateWord? (word : RawText) : Option DateWord :=
  lookupDateWord word <|>
    (if word.contains '.' then lookupDateWord (word.filter (· != '.')) else none)

/-! ## Parts -/

/-- How much each unit is shifted. -/
structure DateShift where
  years : Int := 0
  months : Int := 0
  days : Int := 0
  hours : Int := 0
  minutes : Int := 0
  seconds : Int := 0
  nanoseconds : Int := 0

def DateShift.add (shift : DateShift) (unit : DateUnit) (n nanoseconds : Int) : DateShift :=
  match unit with
  | .year => { shift with years := shift.years + n }
  | .month => { shift with months := shift.months + n }
  | .day count => { shift with days := shift.days + n * count }
  | .hour => { shift with hours := shift.hours + n }
  | .minute => { shift with minutes := shift.minutes + n }
  | .second =>
    { shift with seconds := shift.seconds + n, nanoseconds := shift.nanoseconds + nanoseconds }

structure TimeOfDay where
  hour : Int
  minute : Int
  second : Int
  nanoseconds : Nat

/-- A day of the calendar; the year may be said elsewhere. -/
structure CalendarDay where
  year : Option Int
  month : Int
  day : Int

/-- The parts that have been read. -/
structure DateParts where
  time : Option TimeOfDay := none
  day : Option CalendarDay := none
  weekday : Option (Int × Nat) := none
  zone : Option Int := none
  shift : Option DateShift := none
  instant : Option (Int × Nat) := none

namespace DateParts

def withTime (parts : DateParts) (time : TimeOfDay) : Option DateParts :=
  if parts.time.isSome then none else some { parts with time := some time }

def withDay (parts : DateParts) (day : CalendarDay) : Option DateParts :=
  if parts.day.isSome then none else some { parts with day := some day }

def withWeekday (parts : DateParts) (ordinal : Int) (n : Nat) : Option DateParts :=
  if parts.weekday.isSome then none else some { parts with weekday := some (ordinal, n) }

def withZone (parts : DateParts) (ahead : Int) : Option DateParts :=
  if parts.zone.isSome then none else some { parts with zone := some ahead }

def withShift (parts : DateParts) (unit : DateUnit) (n nanoseconds : Int) : DateParts :=
  { parts with shift := some ((parts.shift.getD {}).add unit n nanoseconds) }

end DateParts

def signedValue (isNegative : Bool) (digits : RawText) : Int :=
  let n : Int := readInBase 10 digits
  if isNegative then -n else n

/-- A year, in which two digits stand for the nearest of two hundred years. -/
def fullYear (digits : RawText) : Int :=
  let n : Int := readInBase 10 digits
  if digits.length = 2 then (if n < 69 then n + 2000 else n + 1900) else n

/-- Billionths of a second. -/
def billionths (fraction : RawText) : Nat :=
  readInBase 10 ((fraction ++ List.replicate 9 '0').take 9)

/-- Hours of a clock of twelve hours. -/
def clockHour? (isAfternoon : Bool) (hour : Int) : Option Int :=
  if hour < 1 ∨ 12 < hour then none
  else some (hour.fmod 12 + if isAfternoon then 12 else 0)

/-- How far a zone is ahead that is written as hours, or hours and minutes. -/
def zoneOffset? (isNegative : Bool) (digits : RawText) (minutes : Option RawText) : Option Int :=
  let n : Int := readInBase 10 digits
  let total :=
    match minutes with
    | some minutes => n * 60 + readInBase 10 minutes
    | none => if digits.length ≤ 2 then n * 60 else n / 100 * 60 + n % 100
  if 24 * 60 < total then none else some (if isNegative then -total * 60 else total * 60)

/-- The zone that may follow a time of the day. -/
def readZoneOffset (tokens : List DateToken) (parts : DateParts) :
    Option (DateParts × List DateToken) :=
  match tokens with
  | .signed isNegative digits [] :: .mark ':' :: .number minutes [] :: rest => do
    let parts ← parts.withZone (← zoneOffset? isNegative digits (some minutes))
    return (parts, rest)
  | .signed _ _ _ :: .word _ :: _ => some (parts, tokens)
  | .signed isNegative digits [] :: rest => do
    let parts ← parts.withZone (← zoneOffset? isNegative digits none)
    return (parts, rest)
  | _ => some (parts, tokens)

/-- The half of the day or the zone behind a time. -/
def readAfterTime (time : TimeOfDay) (tokens : List DateToken) (parts : DateParts) :
    Option (DateParts × List DateToken) := do
  match tokens with
  | .word word :: rest =>
    match dateWord? word with
    | some (.afternoon isAfternoon) =>
      let hour ← clockHour? isAfternoon time.hour
      return (← parts.withTime { time with hour := hour }, rest)
    | _ => return (← parts.withTime time, tokens)
  | _ => readZoneOffset tokens (← parts.withTime time)

/-- A number that stands alone: a year behind a day, a day without marks, or a time. -/
def readLoneNumber (digits : RawText) (parts : DateParts) : Option DateParts :=
  let n : Int := readInBase 10 digits
  let year? :=
    match parts.day with
    | some day =>
      if day.year.isNone && parts.shift.isNone && (parts.time.isSome || 2 < digits.length) then
        some { day with year := some (fullYear digits) }
      else none
    | none => none
  match year? with
  | some day => some { parts with day := some day }
  | none =>
    if 4 < digits.length then
      let yearDigits := digits.take (digits.length - 4)
      parts.withDay ⟨some (fullYear yearDigits), n / 100 % 100, n % 100⟩
    else if digits.length ≤ 2 then parts.withTime ⟨n, 0, 0, 0⟩
    else parts.withTime ⟨n / 100, n % 100, 0, 0⟩

/-- A shift and the word behind it that turns it around. -/
def readShift (unit : DateUnit) (n nanoseconds : Int) (rest : List DateToken) (parts : DateParts) :
    DateParts × List DateToken :=
  match rest with
  | .word word :: more =>
    match dateWord? word with
    | some (.ago sign) => (parts.withShift unit (sign * n) (sign * nanoseconds), more)
    | _ => (parts.withShift unit n nanoseconds, rest)
  | _ => (parts.withShift unit n nanoseconds, rest)

/-- Reads what follows a number. -/
def readNumberPart (digits fraction : RawText) (rest : List DateToken) (parts : DateParts) :
    Option (DateParts × List DateToken) := do
  let n : Int := readInBase 10 digits
  let withDay := fun (year : Option Int) (month day : Int) (rest : List DateToken) => do
    return (← parts.withDay ⟨year, month, day⟩, rest)
  match fraction, rest with
  | [], .mark ':' :: .number minute [] :: .mark ':' :: .number second fraction :: rest =>
    readAfterTime ⟨n, readInBase 10 minute, readInBase 10 second, billionths fraction⟩ rest parts
  | [], .mark ':' :: .number minute [] :: rest =>
    readAfterTime ⟨n, readInBase 10 minute, 0, 0⟩ rest parts
  | [], .mark '/' :: .number second [] :: .mark '/' :: .number third [] :: rest =>
    if 4 ≤ digits.length then withDay (some n) (readInBase 10 second) (readInBase 10 third) rest
    else withDay (some (fullYear third)) n (readInBase 10 second) rest
  | [], .mark '/' :: .number second [] :: rest => withDay none n (readInBase 10 second) rest
  | [], .signed true month [] :: .signed true day [] :: rest =>
    let rest :=
      match rest with
      | .word ['t'] :: .number digits fraction :: more => .number digits fraction :: more
      | _ => rest
    withDay (some (fullYear digits)) (readInBase 10 month) (readInBase 10 day) rest
  | fraction, .word word :: rest =>
    match dateWord? word with
    | some (.month month) =>
      match rest with
      | .signed true year [] :: rest => withDay (some (fullYear year)) month n rest
      | .number year [] :: .mark ':' :: more => withDay none month n (.number year [] :: .mark ':' :: more)
      | .number year [] :: rest => withDay (some (fullYear year)) month n rest
      | _ => withDay none month n rest
    | some (.weekday weekday) => return (← parts.withWeekday n weekday, rest)
    | some (.afternoon isAfternoon) =>
      return (← parts.withTime ⟨← clockHour? isAfternoon n, 0, 0, 0⟩, rest)
    | some (.unit unit) =>
      if fraction.isEmpty || unit = .second then
        return readShift unit n (billionths fraction) rest parts
      else none
    | _ => if fraction.isEmpty then return (← readLoneNumber digits parts, .word word :: rest) else none
  | [], rest => return (← readLoneNumber digits parts, rest)
  | _, _ => none

/-- Reads what follows a word. -/
def readWordPart (word : DateWord) (rest : List DateToken) (parts : DateParts) :
    Option (DateParts × List DateToken) := do
  match word, rest with
  | .month month, .signed true day [] :: .signed true year [] :: rest =>
    return (← parts.withDay ⟨some (fullYear year), month, readInBase 10 day⟩, rest)
  | .month month, .number day [] :: .mark ',' :: .number year [] :: rest =>
    return (← parts.withDay ⟨some (fullYear year), month, readInBase 10 day⟩, rest)
  | .month month, .number day [] :: rest =>
    return (← parts.withDay ⟨none, month, readInBase 10 day⟩, rest)
  | .weekday n, .mark ',' :: rest => return (← parts.withWeekday 0 n, rest)
  | .weekday n, rest => return (← parts.withWeekday 0 n, rest)
  | .unit unit, rest => return readShift unit 1 0 rest parts
  | .dayShift n, rest => return (parts.withShift (.day 1) n 0, rest)
  | .ordinal n, .word next :: rest =>
    match dateWord? next with
    | some (.unit unit) => return readShift unit n 0 rest parts
    | some (.weekday weekday) => return (← parts.withWeekday n weekday, rest)
    | _ => none
  | .zone ahead, .word next :: rest =>
    match dateWord? next with
    | some .summer => return (← parts.withZone (ahead + 3600), rest)
    | _ => return (← parts.withZone ahead, .word next :: rest)
  | .zone ahead, .signed isNegative digits [] :: .word next :: rest =>
    return (← parts.withZone ahead, .signed isNegative digits [] :: .word next :: rest)
  | .zone ahead, .signed isNegative digits [] :: rest =>
    let more ← zoneOffset? isNegative digits none
    return (← parts.withZone (ahead + more), rest)
  | .zone ahead, rest => return (← parts.withZone ahead, rest)
  | .timeMark, rest => return (← parts.withZone (-25200), rest)
  | _, _ => none

def readDateParts : Nat → List DateToken → DateParts → Option DateParts
  | 0, _, _ => none
  | _, [], parts => some parts
  | fuel + 1, token :: rest, parts =>
    let next :=
      match token, rest with
      | .number digits fraction, rest => readNumberPart digits fraction rest parts
      | .signed isNegative digits fraction, .word word :: rest =>
        match dateWord? word with
        | some (.unit unit) =>
          if fraction.isEmpty || unit = .second then
            let sign := if isNegative then -1 else 1
            some (readShift unit (signedValue isNegative digits) (sign * billionths fraction) rest parts)
          else none
        | _ => none
      | .word word, rest => do readWordPart (← dateWord? word) rest parts
      | _, _ => none
    match next with
    | some (parts, rest) => readDateParts fuel rest parts
    | none => none

/-- Reads a description; a number behind an at sign is a time in seconds. -/
def dateParts? (text : RawText) : Option DateParts :=
  let instant := fun (isNegative : Bool) (digits fraction : RawText) =>
    let n := signedValue isNegative digits
    let nanoseconds := billionths fraction
    if isNegative && 0 < nanoseconds then some (n - 1, 1000000000 - nanoseconds) else some (n, nanoseconds)
  match dateTokens (text.length + 1) text with
  | [.mark '@', .number digits fraction] => some { instant := instant false digits fraction }
  | [.mark '@', .signed isNegative digits fraction] =>
    some { instant := instant isNegative digits fraction }
  | tokens => readDateParts (tokens.length + 1) tokens {}

/-! ## Moments -/

def isInRange (n least greatest : Int) : Bool :=
  decide (least ≤ n ∧ n ≤ greatest)

/-- The seconds and billionths that parts stand for, given the present and the zone. -/
def DateParts.resolve? (parts : DateParts) (zone : TimeZone) (now : Int × Nat) :
    Option (Int × Nat) :=
  match parts.instant with
  | some instant => some instant
  | none =>
    let present := CivilTime.ofSeconds (now.1 + zone.ahead)
    let year : Int := (parts.day.bind (·.year)).getD present.year
    let month : Int := (parts.day.map (·.month)).getD present.month
    let day : Int := (parts.day.map (·.day)).getD present.day
    let keepsTime := parts.shift.isSome && parts.day.isNone && parts.weekday.isNone
    let time :=
      match parts.time with
      | some time => time
      | none =>
        if keepsTime then ⟨present.hour, present.minute, present.second, now.2⟩ else ⟨0, 0, 0, 0⟩
    let isValid := isInRange month 1 12 &&
      isInRange day 1 (CivilTime.daysInMonth year month.toNat) && isInRange time.hour 0 23 &&
      isInRange time.minute 0 59 && isInRange time.second 0 60
    if !isValid then none
    else
      let shift := parts.shift.getD {}
      let weekdayShift : Int :=
        match parts.weekday, parts.day with
        | some (ordinal, weekday), none =>
          let today := (CivilTime.ofSeconds (CivilTime.secondsTo year month day 0 0 0)).weekday
          let ahead : Int := (weekday + 7 - today) % 7
          let weeks := if 0 < ordinal && today != weekday then ordinal - 1 else ordinal
          ahead + 7 * weeks
        | _, _ => 0
      let counted := CivilTime.secondsTo (year + shift.years) (month + shift.months)
        (day + weekdayShift + shift.days) time.hour time.minute time.second
      let seconds := counted - parts.zone.getD zone.ahead + shift.hours * 3600 + shift.minutes * 60 +
        shift.seconds
      let nanoseconds := (time.nanoseconds : Int) + shift.nanoseconds
      let carried := nanoseconds.fdiv 1000000000
      some (seconds + carried, (nanoseconds - carried * 1000000000).toNat)

/-- Reads a description of a time. -/
def readDate? (zone : TimeZone) (now : Int × Nat) (text : RawText) : Option (Int × Nat) :=
  (dateParts? text).bind fun parts => parts.resolve? zone now

end KeyJoin.Tools.Dates
