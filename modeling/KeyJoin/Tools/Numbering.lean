import KeyJoin.Tools.Amounts
import KeyJoin.Tools.Options
import KeyJoin.Tools.RegexSyntax
import KeyJoin.Tools.Stream

/-!
# Numbered lines

A tool numbers the lines of logical pages.  A page has a header, a body and a
footer, each begun by a line of marks; for each of them it is laid down which
lines have numbers.
-/

namespace KeyJoin.Tools

open Tool

/-- Which lines have numbers. -/
inductive NumberingStyle
  | all
  | filled
  | none
  | matching (regex : Regex)

inductive PageSection
  | header
  | body
  | footer
  deriving DecidableEq

inductive NumberPlacement
  | left
  | right
  | zeros
  deriving DecidableEq

/-- How lines are numbered. -/
structure NumberingPlan where
  header : NumberingStyle := .none
  body : NumberingStyle := .filled
  footer : NumberingStyle := .none
  mark : RawText := ['\\', ':']
  first : Int := 1
  increment : Int := 1
  joined : Nat := 1
  width : Nat := 6
  separator : RawText := ['\t']
  placement : NumberPlacement := .right
  renumbers : Bool := true

namespace NumberingPlan

def style (plan : NumberingPlan) : PageSection → NumberingStyle
  | .header => plan.header
  | .body => plan.body
  | .footer => plan.footer

/-- The part of a page that a line begins. -/
def sectionOf? (plan : NumberingPlan) (line : RawText) : Option PageSection :=
  let mark := plan.mark
  if mark.length < 2 then none
  else if line == mark ++ mark ++ mark then some .header
  else if line == mark ++ mark then some .body
  else if line == mark then some .footer
  else none

def field (plan : NumberingPlan) (n : Int) : RawText :=
  match plan.placement with
  | .left => padRight plan.width (integerText n)
  | .right => padLeft plan.width (integerText n)
  | .zeros =>
    if n < 0 then '-' :: padZeros (plan.width - 1) (naturalText n.natAbs)
    else padZeros plan.width (naturalText n.natAbs)

end NumberingPlan

/-- The next number, how many blank lines came last, and the part of the page. -/
structure NumberingState where
  next : Int
  blanks : Nat := 0
  place : PageSection := .body

/-- Whether a line has a number, and how many blank lines have gone without one then. -/
def isNumbered (plan : NumberingPlan) (state : NumberingState) (line : RawText) : Bool × Nat :=
  match plan.style state.place with
  | .none => (false, state.blanks)
  | .filled => (!line.isEmpty, state.blanks)
  | .matching regex => (regex.occursIn line, state.blanks)
  | .all =>
    if plan.joined ≤ 1 then (true, state.blanks)
    else if !line.isEmpty || state.blanks + 1 = plan.joined then (true, 0)
    else (false, state.blanks + 1)

/-- What is shown for a line. -/
def numberLine (plan : NumberingPlan) (state : NumberingState) (line : RawText) :
    RawText × NumberingState :=
  match plan.sectionOf? line with
  | some place =>
    (['\n'],
      { state with place := place, next := if plan.renumbers then plan.first else state.next })
  | none =>
    let (hasNumber, blanks) := isNumbered plan state line
    if hasNumber then
      (plan.field state.next ++ plan.separator ++ line ++ ['\n'],
        { state with next := state.next + plan.increment, blanks := blanks })
    else
      (List.replicate (plan.width + plan.separator.length) ' ' ++ line ++ ['\n'],
        { state with blanks := blanks })

/-! ## Options -/

def numberingRules : List OptionRule :=
  let rule := fun (letter name : String) =>
    ({ key := letter, letters := letter, name := name, argument := .required } : OptionRule)
  [rule "h" "header-numbering", rule "b" "body-numbering", rule "f" "footer-numbering",
    rule "v" "starting-line-number", rule "i" "line-increment",
    { key := "p", letters := "p", name := "no-renumber" }, rule "l" "join-blank-lines",
    rule "s" "number-separator", rule "w" "number-width", rule "n" "number-format",
    rule "d" "section-delimiter"]

/-- The style that a text stands for. -/
def readNumberingStyle? (text : RawText) : Tool (Option NumberingStyle) := do
  match text with
  | 'a' :: _ => return some .all
  | 't' :: _ => return some .filled
  | 'n' :: _ => return some .none
  | 'p' :: expression =>
    match Regex.read {} expression with
    | .ok (regex, _) => return some (.matching regex)
    | .error fault => fail 1 (raw fault.description)
  | _ => return none

/-- Takes an option into account; what cannot be read is told of, and the flag says so. -/
def NumberingPlan.take (plan : NumberingPlan) (key : String) (value : RawText) :
    Tool (NumberingPlan × Bool) := do
  let number := fun (least most : Int) (message : String) =>
    boundedAmount 1 integerRule least most message value
  let refuse := fun (message : String) => do
    say (raw message ++ raw ": " ++ quoted value)
    return (plan, false)
  let styled := fun (part : String) (set : NumberingStyle → NumberingPlan) => do
    match ← readNumberingStyle? value with
    | some style => return (set style, true)
    | none => refuse ("invalid " ++ part ++ " numbering style")
  let lowest : Int := -(twoTo 63 : Int)
  let highest : Int := twoTo 63 - 1
  match key with
  | "h" => styled "header" fun style => { plan with header := style }
  | "b" => styled "body" fun style => { plan with body := style }
  | "f" => styled "footer" fun style => { plan with footer := style }
  | "v" => return ({ plan with first := ← number lowest highest "invalid starting line number" }, true)
  | "i" =>
    return ({ plan with increment := ← number lowest highest "invalid line number increment" }, true)
  | "l" =>
    let n ← number 1 highest "invalid line number of blank lines"
    return ({ plan with joined := n.toNat }, true)
  | "w" =>
    let n ← number 1 2147483647 "invalid line number field width"
    return ({ plan with width := n.toNat }, true)
  | "s" => return ({ plan with separator := value }, true)
  | "p" => return ({ plan with renumbers := false }, true)
  | "n" =>
    match String.ofList value with
    | "ln" => return ({ plan with placement := .left }, true)
    | "rn" => return ({ plan with placement := .right }, true)
    | "rz" => return ({ plan with placement := .zeros }, true)
    | _ => refuse "invalid line numbering format"
  | _ =>
    match value with
    | [c] => return ({ plan with mark := c :: plan.mark.drop 1 }, true)
    | mark => return ({ plan with mark := mark }, true)

def runNumber (arguments : List RawText) : Tool Unit := do
  let options ← readOptions 1 numberingRules arguments
  let (plan, isRead) ← options.given.foldlM
    (fun (plan, isRead) (key, value) => do
      let (plan, isGood) ← plan.take key value
      return (plan, isRead && isGood))
    (({}, true) : NumberingPlan × Bool)
  if !isRead then misuse 1 []
  let _ ← foldInputLines options.operands ({ next := plan.first } : NumberingState) fun state line => do
    let (shown, state) := numberLine plan state (lineBody line)
    put shown
    return (state, true)

end KeyJoin.Tools
