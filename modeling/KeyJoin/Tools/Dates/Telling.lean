import KeyJoin.Tools.Dates.Formatting
import KeyJoin.Tools.Dates.Reading
import KeyJoin.Tools.Options

/-!
# Telling the date

A tool that shows the present, a time that is described in words, or the time
when a file was changed last, in a format of its own or one that is asked for.
-/

namespace KeyJoin.Tools.Dates

open Tool

/-- The zone that the environment names. -/
def environmentZone : Tool TimeZone := do
  match ← lookupEnvironment "TZ" with
  | some text => return TimeZone.ofText text
  | none => return universalZone

/-- The seconds and billionths of a number of ticks of the clock. -/
def instantOfTicks (ticks : Nat) : Int × Nat :=
  (ticks / secondTicks, ticks % secondTicks * (1000000000 / secondTicks))

/-- The ticks of an instant; none lies before the clock began. -/
def ticksOfInstant (instant : Int × Nat) : Nat :=
  instant.1.toNat * secondTicks + instant.2 / (1000000000 / secondTicks)

def momentOf (zone : TimeZone) (instant : Int × Nat) : Moment :=
  ⟨instant.1, instant.2, zone⟩

def present : Tool (Int × Nat) := do
  return instantOfTicks (← ask .clock)

/-- The formats of long names, by how exact they are. -/
def standardFormat : String → RawText
  | "hours" => raw "%Y-%m-%dT%H%:z"
  | "minutes" => raw "%Y-%m-%dT%H:%M%:z"
  | "seconds" => raw "%Y-%m-%dT%H:%M:%S%:z"
  | "ns" => raw "%Y-%m-%dT%H:%M:%S,%N%:z"
  | _ => raw "%Y-%m-%d"

/-- The same with a space before the time of day. -/
def spacedFormat : String → RawText
  | "seconds" => raw "%Y-%m-%d %H:%M:%S%:z"
  | "ns" => raw "%Y-%m-%d %H:%M:%S.%N%:z"
  | _ => raw "%Y-%m-%d"

def mailFormat : String := "%a, %d %b %Y %H:%M:%S %z"

def usualFormat : String := "%a %b %e %H:%M:%S %Z %Y"

def dateRules : List OptionRule :=
  [{ key := "d", letters := "d", name := "date", argument := .required },
    { key := "f", letters := "f", name := "file", argument := .required },
    { key := "I", letters := "I", name := "iso-8601", argument := .possible },
    { key := "r", letters := "r", name := "reference", argument := .required },
    { key := "R", letters := "R", name := "rfc-email" }, { key := "R", name := "rfc-822" },
    { key := "R", name := "rfc-2822" },
    { key := "rfc", name := "rfc-3339", argument := .required },
    { key := "s", letters := "s", name := "set", argument := .required },
    { key := "u", letters := "u", name := "utc" }, { key := "u", name := "universal" },
    { key := "u", name := "uct" }, { key := "debug", name := "debug" },
    { key := "resolution", name := "resolution" }]

/-- The formats that options ask for. -/
def askedFormats (options : GivenOptions) : Tool (List RawText) := do
  let mut formats := []
  for (key, value) in options.given do
    match key with
    | "I" =>
      let exactness ←
        if value.isEmpty then pure "date"
        else readWord 1 "--iso-8601" [["hours"], ["minutes"], ["date"], ["seconds"], ["ns"]] value
      formats := formats ++ [standardFormat exactness]
    | "rfc" =>
      let exactness ← readWord 1 "--rfc-3339" [["date"], ["seconds"], ["ns"]] value
      formats := formats ++ [spacedFormat exactness]
    | "R" => formats := formats ++ [raw mailFormat]
    | _ => pure ()
  return formats

def runDate (arguments : List RawText) : Tool Unit := do
  let options ← readOptions 1 dateRules arguments
  let formats ← askedFormats options
  let zone ← if options.has "u" then pure universalZone else environmentZone
  let sources := ["d", "f", "r"].filter options.has
  if 1 < sources.length then
    misuse 1 (raw "the options to specify dates for printing are mutually exclusive")
  if !sources.isEmpty && options.has "s" then
    misuse 1 (raw "the options to print and set the time may not be used together")
  match options.operands with
  | _ :: operand :: _ => extraOperand 1 operand
  | _ => pure ()
  let operandFormat ←
    match options.operands with
    | ('+' :: format) :: _ =>
      if !formats.isEmpty then fail 1 (raw "multiple output formats specified")
      pure (some format)
    | operand :: _ =>
      if !sources.isEmpty || options.has "s" then
        misuse 1 (raw "the argument " ++ quoted operand ++
          raw " lacks a leading '+';\nwhen using an option to specify date(s), any non-option\nargument must be a format string beginning with '+'")
      if operand.all Char.isDigit && (operand.length == 8 || operand.length == 10 || operand.length == 12)
      then fail 1 (raw "cannot set date: Operation not permitted")
      fail 1 (raw "invalid date " ++ quoted operand)
    | [] => pure none
  let format ←
    match formats, operandFormat with
    | _ :: _ :: _, _ => fail 1 (raw "multiple output formats specified")
    | [format], _ => pure format
    | [], some format => pure format
    | [], none => pure (raw (if options.has "resolution" then "%s.%N" else usualFormat))
  let now ← present
  let showTime := fun (instant : Int × Nat) => putLine ((momentOf zone instant).format format)
  let showText := fun (text : RawText) => do
    match readDate? zone now text with
    | some instant => showTime instant
    | none =>
      say (raw "invalid date " ++ quoted text)
      setStatus 1
  match options.lastOf ["d", "f", "r", "s"] with
  | some "d" => showText ((options.value? "d").getD [])
  | some "f" =>
    let name := (options.value? "f").getD []
    match ← readFile name with
    | .error fault =>
      sayFault name fault
      setStatus 1
    | .ok text =>
      for line in plainLines text do
        showText line
  | some "r" =>
    let name := (options.value? "r").getD []
    match ← ask (.statusOf name true) with
    | .ok status => showTime (instantOfTicks status.modified)
    | .error fault =>
      sayFault name fault
      setStatus 1
  | some _ =>
    let text := (options.value? "s").getD []
    match readDate? zone now text with
    | none => fail 1 (raw "invalid date " ++ quoted text)
    | some instant =>
      say (raw "cannot set date: Operation not permitted")
      setStatus 1
      showTime instant
  | none => showTime now

end KeyJoin.Tools.Dates
