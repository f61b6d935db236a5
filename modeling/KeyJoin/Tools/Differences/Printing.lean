import KeyJoin.Tools.Differences.Comparison

/-!
# Printing differences

The changes between two texts are printed one by one, together with the lines
around them, as commands of an editor, in two columns, or by formats for groups
and lines.  Changes are printed together if the lines between them are shown
around both.
-/

namespace KeyJoin.Tools.Differences

/-- One of the texts that are compared, and what its heading says. -/
structure DiffSide where
  name : RawText
  heading : RawText
  lines : Array DiffLine

/-- Formats for groups of lines and for lines. -/
structure GroupFormats where
  unchangedGroup : RawText := raw "%="
  oldGroup : RawText := raw "%<"
  newGroup : RawText := raw "%>"
  changedGroup : RawText := raw "%<%>"
  unchangedLine : RawText := raw "%L"
  oldLine : RawText := raw "%L"
  newLine : RawText := raw "%L"

inductive DiffStyle
  | normal
  | context (count : Nat)
  | unified (count : Nat)
  | editor
  | forward
  | counted
  | columns
  | groups (formats : GroupFormats)

structure DiffLayout where
  style : DiffStyle := .normal
  startsWithTab : Bool := false
  expandsTabs : Bool := false
  tabSize : Nat := 8
  leavesBlankEmpty : Bool := false
  functionLine : Option Regex := none
  width : Nat := 130
  leftOnly : Bool := false
  hidesCommon : Bool := false

namespace DiffLayout

/-- How many equal lines are shown around a change. -/
def around (layout : DiffLayout) : Nat :=
  match layout.style with
  | .context count | .unified count => count
  | _ => 0

variable (layout : DiffLayout)

/-! ## Lines -/

def lineBodyText (column : Nat) (text : RawText) : RawText :=
  if layout.expandsTabs then
    (text.foldl
      (fun (out, column) c =>
        if c == '\t' then
          let n := layout.tabSize - column % layout.tabSize
          (List.replicate n ' ' ++ out, column + n)
        else if c == '\x0d' then (c :: out, 0)
        else if c == '\x08' then if column = 0 then (out, 0) else (c :: out, column - 1)
        else (c :: out, if isPrintByte c then column + 1 else column))
      (([] : RawText), column)).1.reverse
  else text

/-- A line behind a mark; a line without a line feed is told of. -/
def markedLine (mark : RawText) (line : DiffLine) : RawText :=
  let isBlank := line.text.isEmpty && layout.leavesBlankEmpty
  let gap := if isBlank then [] else if layout.startsWithTab then ['\t'] else [' ']
  mark ++ gap ++ layout.lineBodyText 0 line.text ++
    (if line.isEnded then ['\n'] else raw "\n\\ No newline at end of file\n")

/-- A line right behind a mark of one character. -/
def tightLine (mark : Char) (line : DiffLine) : RawText :=
  let gap := if layout.startsWithTab && !line.text.isEmpty then ['\t'] else []
  let start :=
    if mark == ' ' then
      if line.text.isEmpty && layout.leavesBlankEmpty then []
      else if layout.startsWithTab then ['\t']
      else [' ']
    else mark :: gap
  start ++ layout.lineBodyText 0 line.text ++
    (if line.isEnded then ['\n'] else raw "\n\\ No newline at end of file\n")

def endedText (line : DiffLine) : RawText :=
  line.text ++ ['\n']

/-- A range of lines by its first place and their number; an empty range is told by the line before
it. -/
def rangeText (separator : Char) (start count : Nat) : RawText :=
  if count ≤ 1 then naturalText (start + count)
  else naturalText (start + 1) ++ separator :: naturalText (start + count)

def changeLetter (change : Change) : Char :=
  if change.newCount = 0 then 'd' else if change.oldCount = 0 then 'a' else 'c'

def normalChange (old new : Array DiffLine) (change : Change) : RawText :=
  let removed := (removedLines old change).flatMap (layout.markedLine ['<'])
  let added := (addedLines new change).flatMap (layout.markedLine ['>'])
  rangeText ',' change.oldStart change.oldCount ++ changeLetter change ::
    rangeText ',' change.newStart change.newCount ++ '\n' :: removed ++
    (if change.oldCount != 0 && change.newCount != 0 then raw "---\n" else []) ++ added

/-! ## Commands of an editor -/

/-- Lines that are put in until a line with a dot; such a line of its own is put in with two. -/
def insertedLines : List DiffLine → Bool → RawText
  | [], isInserting => if isInserting then raw ".\n" else []
  | line :: lines, isInserting =>
    let start := if isInserting then [] else raw "a\n"
    if line.text == ['.'] && line.isEnded then
      start ++ raw "..\n.\ns/.//\n" ++ insertedLines lines false
    else start ++ endedText line ++ insertedLines lines true

def editorChange (new : Array DiffLine) (change : Change) : RawText :=
  rangeText ',' change.oldStart change.oldCount ++ changeLetter change :: '\n' ::
    (if change.newCount = 0 then [] else insertedLines (addedLines new change) true)

def forwardChange (new : Array DiffLine) (change : Change) : RawText :=
  changeLetter change :: rangeText ' ' change.oldStart change.oldCount ++ '\n' ::
    (if change.newCount = 0 then [] else (addedLines new change).flatMap endedText ++ raw ".\n")

def countedChange (new : Array DiffLine) (change : Change) : RawText :=
  let removed :=
    if change.oldCount = 0 then []
    else
      'd' :: naturalText (change.oldStart + 1) ++ ' ' :: naturalText change.oldCount ++ ['\n']
  let added :=
    if change.newCount = 0 then []
    else
      'a' :: naturalText change.oldEnd ++ ' ' :: naturalText change.newCount ++ '\n' ::
        (addedLines new change).flatMap fun line =>
          line.text ++ if line.isEnded then ['\n'] else []
  removed ++ added

/-! ## Lines around changes -/

/-- Groups changes that are shown together. -/
def changeGroups (rules : Change → Bool) (around : Nat) : List Change → List (List Change)
  | [] => []
  | change :: changes =>
    match changeGroups rules around changes with
    | [] => [[change]]
    | group :: groups =>
      match group with
      | [] => [change] :: groups
      | next :: _ =>
        let limit := if rules next then around else 2 * around + 1
        if next.oldStart - change.oldEnd < limit then (change :: group) :: groups
        else [change] :: group :: groups

/-- The part of one text that a group shows: its first place and the place behind its last. -/
def shownRange (around size first last : Nat) : Nat × Nat :=
  (first - around, min size (last + around))

/-- The last line before a place that begins a part of a program. -/
def functionHeading (lines : Array DiffLine) : Nat → RawText
  | 0 => []
  | i + 1 =>
    match layout.functionLine, lines[i]? with
    | some regex, some line =>
      if regex.occursIn line.text then
        ' ' :: trimEndOf isSpaceByte ((line.text.dropWhile isSpaceByte).take 40)
      else functionHeading lines i
    | _, _ => []

/-- The lines of one side of a group, each behind its mark. -/
def contextLines (lines : Array DiffLine) (mark : Nat → Char) (first last : Nat) : RawText :=
  (List.range' first (last - first)).flatMap fun i =>
    match lines[i]? with
    | some line => layout.markedLine [mark i] line
    | none => []

def contextRange (first last : Nat) : RawText :=
  if last ≤ first + 1 then naturalText last
  else naturalText (first + 1) ++ ',' :: naturalText last

def contextGroup (around : Nat) (old new : Array DiffLine) (group : List Change) : RawText :=
  match group.head?, group.getLast? with
  | some start, some stop =>
    let (oldFirst, oldLast) := shownRange around old.size start.oldStart stop.oldEnd
    let (newFirst, newLast) := shownRange around new.size start.newStart stop.newEnd
    let oldMark := fun (i : Nat) =>
      match group.find? fun change => decide (i < change.oldEnd) with
      | some change =>
        if change.oldStart ≤ i then (if change.newCount = 0 then '-' else '!') else ' '
      | none => ' '
    let newMark := fun (i : Nat) =>
      match group.find? fun change => decide (i < change.newEnd) with
      | some change =>
        if change.newStart ≤ i then (if change.oldCount = 0 then '+' else '!') else ' '
      | none => ' '
    let removes := group.any fun change => change.oldCount != 0
    let adds := group.any fun change => change.newCount != 0
    raw "***************" ++ layout.functionHeading old oldFirst ++ raw "\n*** " ++
      contextRange oldFirst oldLast ++ raw " ****\n" ++
      (if removes then layout.contextLines old oldMark oldFirst oldLast else []) ++
      raw "--- " ++ contextRange newFirst newLast ++ raw " ----\n" ++
      (if adds then layout.contextLines new newMark newFirst newLast else [])
  | _, _ => []

def unifiedRange (first last : Nat) : RawText :=
  if last = first then naturalText last ++ raw ",0"
  else if last = first + 1 then naturalText last
  else naturalText (first + 1) ++ ',' :: naturalText (last - first)

/-- The lines from a place on up to the end of a group. -/
def unifiedLines (old new : Array DiffLine) (last : Nat) : Nat → List Change → RawText
  | place, [] =>
    (old.extract place last).toList.flatMap (layout.tightLine ' ')
  | place, change :: changes =>
    (old.extract place change.oldStart).toList.flatMap (layout.tightLine ' ') ++
      (removedLines old change).flatMap (layout.tightLine '-') ++
      (addedLines new change).flatMap (layout.tightLine '+') ++
      unifiedLines old new last change.oldEnd changes

def unifiedGroup (around : Nat) (old new : Array DiffLine) (group : List Change) : RawText :=
  match group.head?, group.getLast? with
  | some start, some stop =>
    let (oldFirst, oldLast) := shownRange around old.size start.oldStart stop.oldEnd
    let (newFirst, newLast) := shownRange around new.size start.newStart stop.newEnd
    raw "@@ -" ++ unifiedRange oldFirst oldLast ++ raw " +" ++ unifiedRange newFirst newLast ++
      raw " @@" ++ layout.functionHeading old oldFirst ++ ['\n'] ++
      layout.unifiedLines old new oldLast oldFirst group
  | _, _ => []

/-! ## Two columns -/

/-- The width of a column, and where the second one begins. -/
def columnPlaces : Nat × Nat :=
  let unit := if layout.expandsTabs then 1 else layout.tabSize
  let gap := unit + 3
  let middle := layout.width / 2 + gap / 2 + (if layout.width % 2 = 1 && gap % 2 = 1 then 1 else 0)
  let offset := middle - middle % unit
  let half := min (offset - 3) (layout.width - offset)
  (half, if half = 0 then layout.width else offset)

/-- White space from one place to another. -/
def gapText (first last : Nat) : RawText :=
  if layout.expandsTabs then List.replicate (last - first) ' '
  else
    let tabs := last / layout.tabSize - first / layout.tabSize
    let place := if tabs = 0 then first else last / layout.tabSize * layout.tabSize
    List.replicate tabs '\t' ++ List.replicate (last - place) ' '

/-- The part of a line that fits into a column, and the place behind it. -/
def halfLine (width : Nat) (text : RawText) : RawText × Nat :=
  let (out, _, place) := text.foldl
    (fun ((out, column, place) : RawText × Nat × Nat) c =>
      if c == '\t' then
        let next := column + layout.tabSize - column % layout.tabSize
        if column != place then (out, next, place)
        else if layout.expandsTabs then
          let stop := min next width
          (List.replicate (stop - place) ' ' ++ out, next, max place stop)
        else if next < width then ('\t' :: out, next, next)
        else (out, next, place)
      else if column < width then (c :: out, column + 1, column + 1)
      else (out, column + 1, place))
    ([], 0, 0)
  (out.reverse, place)

def columnLine (left : Option DiffLine) (mark : Char) (right : Option DiffLine) : RawText :=
  let (half, offset) := layout.columnPlaces
  let (shown, place) := (left.map fun line => layout.halfLine half line.text).getD ([], 0)
  let leftEnds := (left.map (·.isEnded)).getD false
  let rightEnds := (right.map (·.isEnded)).getD false
  let (shown, place) :=
    if mark == ' ' then (shown, place)
    else
      let target := (half + offset - 1) / 2
      let mark :=
        if mark == '|' && leftEnds != rightEnds then (if leftEnds then '/' else '\\') else mark
      (shown ++ layout.gapText place target ++ [mark], target + 1)
  let shown :=
    match right with
    | some line =>
      if line.text.isEmpty && line.isEnded then shown
      else shown ++ layout.gapText place offset ++ (layout.halfLine half line.text).1
    | none => shown
  if leftEnds || rightEnds then shown ++ ['\n'] else shown

def commonColumns (old new : Array DiffLine) (oldFirst oldLast newFirst newLast : Nat) : RawText :=
  if layout.hidesCommon then []
  else if layout.leftOnly then
    (old.extract oldFirst oldLast).toList.flatMap fun line => layout.columnLine (some line) '(' none
  else
    let left := (old.extract oldFirst oldLast).toList
    let right := (new.extract newFirst newLast).toList
    (left.zip right).flatMap (fun (a, b) => layout.columnLine (some a) ' ' (some b)) ++
      (right.drop left.length).flatMap (fun line => layout.columnLine none ')' (some line)) ++
      (left.drop right.length).flatMap (fun line => layout.columnLine (some line) '(' none)

def columnLines (old new : Array DiffLine) : Nat → Nat → List Change → RawText
  | i, j, [] => layout.commonColumns old new i old.size j new.size
  | i, j, change :: changes =>
    let left := removedLines old change
    let right := addedLines new change
    layout.commonColumns old new i change.oldStart j change.newStart ++
      (left.zip right).flatMap (fun (a, b) => layout.columnLine (some a) '|' (some b)) ++
      (right.drop left.length).flatMap (fun line => layout.columnLine none '>' (some line)) ++
      (left.drop right.length).flatMap (fun line => layout.columnLine (some line) '<' none) ++
      columnLines old new change.oldEnd change.newEnd changes

/-! ## Formats -/

/-- The number of a place in a format: digits, a point and digits, and a letter of a base. -/
def readNumberFormat? (text : RawText) : Option ((Nat → RawText) × RawText) :=
  let (leftAligned, body) :=
    match text with
    | '-' :: rest => (true, rest)
    | _ => (false, text)
  let width := body.takeWhile Char.isDigit
  let rest := body.drop width.length
  let (least, rest) :=
    match rest with
    | '.' :: rest => (rest.takeWhile Char.isDigit, rest.drop (rest.takeWhile Char.isDigit).length)
    | _ => ([], rest)
  let shown := fun (base : Nat) (n : Nat) =>
    let digits := padZeros (readInBase 10 least) (digitsInBase base n)
    let width' := readInBase 10 width
    if leftAligned then padRight width' digits
    else if width.head? == some '0' && least.isEmpty then padZeros width' digits
    else padLeft width' digits
  match rest with
  | 'd' :: rest => some (shown 10, rest)
  | 'o' :: rest => some (shown 8, rest)
  | 'x' :: rest => some (shown 16, rest)
  | 'X' :: rest => some (fun n => (shown 16 n).map Char.toUpper, rest)
  | _ => none

/-- A character written in quotes, also by the digits of its number. -/
def readQuotedCharacter? (text : RawText) : Option (Char × RawText) :=
  match text with
  | '\'' :: '\\' :: rest =>
    let digits := (rest.take 3).takeWhile isOctalDigit
    match rest.drop digits.length with
    | '\'' :: rest => if digits.isEmpty then none else some (byteCharacter (readInBase 8 digits), rest)
    | _ => none
  | '\'' :: c :: '\'' :: rest => some (c, rest)
  | _ => none

def lineByFormat (line : DiffLine) (number : Nat) : Nat → RawText → RawText
  | 0, _ => []
  | _, [] => []
  | fuel + 1, '%' :: rest =>
    let go := lineByFormat line number fuel
    match rest with
    | '%' :: rest => '%' :: go rest
    | 'l' :: rest => line.text ++ go rest
    | 'L' :: rest => line.text ++ (if line.isEnded then ['\n'] else []) ++ go rest
    | 'c' :: text =>
      match readQuotedCharacter? text with
      | some (c, rest) => c :: go rest
      | none => '%' :: 'c' :: go text
    | _ =>
      match readNumberFormat? rest with
      | some (shown, 'n' :: rest) => shown number ++ go rest
      | _ => '%' :: go rest
  | fuel + 1, c :: rest => c :: lineByFormat line number fuel rest

/-- Lines of both sides that belong together. -/
structure LineGroup where
  old : List DiffLine
  oldStart : Nat
  new : List DiffLine
  newStart : Nat

def linesByFormat (format : RawText) (start : Nat) (lines : List DiffLine) : RawText :=
  (lines.zipIdx start).flatMap fun (line, i) =>
    lineByFormat line (i + 1) (format.length + 1) format

/-- What a letter counts in a group: capital letters count the new side. -/
def groupNumber? (group : LineGroup) (letter : Char) : Option Nat :=
  let (start, count) :=
    if letter.isUpper then (group.newStart, group.new.length) else (group.oldStart, group.old.length)
  match letter.toLower with
  | 'e' => some start
  | 'f' => some (start + 1)
  | 'l' => some (start + count)
  | 'm' => some (start + count + 1)
  | 'n' => some count
  | _ => none

def groupByFormat (formats : GroupFormats) (group : LineGroup) : Nat → RawText → RawText
  | 0, _ => []
  | _, [] => []
  | fuel + 1, '%' :: rest =>
    let go := groupByFormat formats group fuel
    match rest with
    | '%' :: rest => '%' :: go rest
    | '<' :: rest => linesByFormat formats.oldLine group.oldStart group.old ++ go rest
    | '>' :: rest => linesByFormat formats.newLine group.newStart group.new ++ go rest
    | '=' :: rest => linesByFormat formats.unchangedLine group.oldStart group.old ++ go rest
    | 'c' :: text =>
      match readQuotedCharacter? text with
      | some (c, rest) => c :: go rest
      | none => '%' :: 'c' :: go text
    | '(' :: text =>
      let condition := text.takeWhile (· != '?')
      let after := text.drop (condition.length + 1)
      let yes := after.takeWhile (· != ':')
      let after := after.drop (yes.length + 1)
      let no := after.takeWhile (· != ')')
      let value := fun (side : RawText) =>
        match side with
        | [c] => (groupNumber? group c).getD (digitValue c)
        | digits => readInBase 10 digits
      let sides := splitAtAll '=' condition
      let holds := value (sides.getD 0 []) == value (sides.getD 1 [])
      go (if holds then yes else no) ++ go (after.drop (no.length + 1))
    | _ =>
      match readNumberFormat? rest with
      | some (shown, letter :: rest) =>
        match groupNumber? group letter with
        | some n => shown n ++ go rest
        | none => '%' :: go (letter :: rest)
      | _ => '%' :: go rest
  | fuel + 1, c :: rest => c :: groupByFormat formats group fuel rest

def showGroup (formats : GroupFormats) (group : LineGroup) (format : RawText) : RawText :=
  if group.old.isEmpty && group.new.isEmpty then []
  else groupByFormat formats group (format.length + 1) format

def groupLines (formats : GroupFormats) (old new : Array DiffLine) :
    Nat → Nat → List Change → RawText
  | i, j, [] =>
    showGroup formats ⟨(old.extract i old.size).toList, i, (new.extract j new.size).toList, j⟩
      formats.unchangedGroup
  | i, j, change :: changes =>
    let same : LineGroup :=
      ⟨(old.extract i change.oldStart).toList, i, (new.extract j change.newStart).toList, j⟩
    let group : LineGroup :=
      ⟨removedLines old change, change.oldStart, addedLines new change, change.newStart⟩
    let format :=
      if change.newCount = 0 then formats.oldGroup
      else if change.oldCount = 0 then formats.newGroup
      else formats.changedGroup
    showGroup formats same formats.unchangedGroup ++ showGroup formats group format ++
      groupLines formats old new change.oldEnd change.newEnd changes

/-! ## Whole comparisons -/

/-- Whether something is printed also if there is no change. -/
def showsEqual : Bool :=
  match layout.style with
  | .columns => !layout.hidesCommon
  | .groups _ => true
  | _ => false

/-- Prints changes; `isIgnored` tells those that need not be shown. -/
def render (isIgnored : Change → Bool) (old new : DiffSide) (changes : List Change) : RawText :=
  let shown := changes.filter fun change => !isIgnored change
  let grouped := fun (around : Nat) (print : List Change → RawText) =>
    ((changeGroups isIgnored around changes).filter fun group => !group.all isIgnored).flatMap print
  let headed := fun (oldMark newMark : String) (text : RawText) =>
    if text.isEmpty then []
    else
      raw oldMark ++ old.heading ++ '\n' :: raw newMark ++ new.heading ++ '\n' :: text
  let expanded := fun (side : DiffSide) =>
    side.lines.map fun line => { line with text := layout.lineBodyText 0 line.text }
  match layout.style with
  | .normal => shown.flatMap (layout.normalChange old.lines new.lines)
  | .context around =>
    headed "*** " "--- " (grouped around (layout.contextGroup around old.lines new.lines))
  | .unified around =>
    headed "--- " "+++ " (grouped around (layout.unifiedGroup around old.lines new.lines))
  | .editor => shown.reverse.flatMap (editorChange (expanded new))
  | .forward => shown.flatMap (forwardChange (expanded new))
  | .counted => shown.flatMap (countedChange (expanded new))
  | .columns => layout.columnLines old.lines new.lines 0 0 shown
  | .groups formats => groupLines formats (expanded old) (expanded new) 0 0 shown

end DiffLayout

end KeyJoin.Tools.Differences
