import KeyJoin.Tools.Options
import KeyJoin.Tools.Stream

/-!
# Tools for the parts of lines

Tools that cut fields and characters out of lines, put lines side by side, and
compare lines with those before them or with those of another file.
-/

namespace KeyJoin.Tools

open Tool

/-! ## Cutting -/

/-- A range of places counted from one; one without an end goes to the end of the line. -/
structure PlaceRange where
  first : Nat
  last : Option Nat

def PlaceRange.holds (range : PlaceRange) (n : Nat) : Bool :=
  range.first ≤ n && (range.last.map fun last => decide (n ≤ last)).getD true

/-- How the places of a list are called in messages. -/
structure PlaceWords where
  value : String
  numbering : String

def placeRange (what : PlaceWords) (text : RawText) : Tool PlaceRange := do
  let number := fun (digits : RawText) =>
    match natural? digits with
    | some 0 => misuse 1 (raw what.numbering)
    | some n => pure n
    | none => misuse 1 (raw what.value ++ quoted text)
  match splitAtFirst? (· == '-') text with
  | none =>
    let n ← number text
    return ⟨n, some n⟩
  | some (first, last) =>
    if first.isEmpty && last.isEmpty then misuse 1 (raw "invalid range with no endpoint: -")
    let first ← if first.isEmpty then pure 1 else number first
    if last.isEmpty then return ⟨first, none⟩
    let last ← number last
    if last < first then misuse 1 (raw "invalid decreasing range")
    return ⟨first, some last⟩

def cutRules : List OptionRule :=
  [{ key := "b", letters := "b", name := "bytes", argument := .required },
    { key := "c", letters := "c", name := "characters", argument := .required },
    { key := "f", letters := "f", name := "fields", argument := .required },
    { key := "d", letters := "d", name := "delimiter", argument := .required },
    { key := "n", letters := "n" }, { key := "s", letters := "s", name := "only-delimited" },
    { key := "complement", name := "complement" },
    { key := "output", name := "output-delimiter", argument := .required },
    { key := "z", letters := "z", name := "zero-terminated" }]

/-- The groups of neighbouring places that are wanted, in order. -/
def wantedGroups {α : Type} (isWanted : Nat → Bool) (items : List α) : List (List α) :=
  let (groups, group) := (items.zipIdx 1).foldl
    (fun (state : List (List α) × List α) (item, n) =>
      let (groups, group) := state
      if isWanted n then (groups, item :: group)
      else if group.isEmpty then (groups, [])
      else (group.reverse :: groups, []))
    ([], [])
  (if group.isEmpty then groups else group.reverse :: groups).reverse

def cutCharacters (isWanted : Nat → Bool) (starts : Nat → Bool) (output : Option RawText)
    (body : RawText) : RawText :=
  match output with
  | none => (wantedGroups isWanted body).flatten
  | some separator =>
    (body.zipIdx 1).foldl
      (fun shown (c, n) =>
        if !isWanted n then shown
        else if starts n && !shown.isEmpty then shown ++ separator ++ [c]
        else shown ++ [c])
      []

def runCut (arguments : List RawText) : Tool Unit := do
  let options ← readOptions 1 cutRules arguments
  let lists := options.given.filter fun entry => ["b", "c", "f"].contains entry.1
  let (key, list) ←
    match lists with
    | [] => misuse 1 (raw "you must specify a list of bytes, characters, or fields")
    | [entry] => pure entry
    | _ => misuse 1 (raw "only one list may be specified")
  let cutsFields := key == "f"
  if !cutsFields && options.has "d" then
    misuse 1 (raw "an input delimiter may be specified only when operating on fields")
  if !cutsFields && options.has "s" then
    misuse 1 (raw "suppressing non-delimited lines makes sense\n\tonly when operating on fields")
  let delimiter ←
    match options.value? "d" with
    | none => pure '\t'
    | some [c] => pure c
    | some [] => pure '\x00'
    | some _ => misuse 1 (raw "the delimiter must be a single character")
  let words : PlaceWords :=
    if cutsFields then ⟨"invalid field value ", "fields are numbered from 1"⟩
    else ⟨"invalid byte/character position ", "byte/character positions are numbered from 1"⟩
  let ranges ← (list.splitOnP fun c => c == ',' || c == ' ').mapM (placeRange words)
  let isWanted := fun (n : Nat) => (ranges.any (·.holds n)) != options.has "complement"
  let starts := fun (n : Nat) =>
    isWanted n && (n ≤ 1 || !isWanted (n - 1) || ranges.any fun range =>
      range.first == n && !ranges.any fun other => other.first < n && other.holds n)
  let output := options.value? "output"
  let ending := if options.has "z" then '\x00' else '\n'
  let cutLine := fun (body : RawText) =>
    if !cutsFields then some (cutCharacters isWanted starts output body)
    else
      let fields := splitAtAll delimiter body
      if fields.length ≤ 1 then if options.has "s" then none else some body
      else
        some ((output.getD [delimiter]).intercalate (wantedGroups isWanted fields).flatten)
  if options.has "z" then
    for (_, text) in ← readInputs options.operands do
      for body in splitAtAll ending (if text.getLast? == some ending then text.dropLast else text) do
        match cutLine body with
        | some shown => put (shown ++ [ending])
        | none => pure ()
  else
    foldInputLines options.operands () fun _ line => do
      match cutLine (lineBody line) with
      | some shown => putLine shown
      | none => pure ()
      return ((), true)

/-! ## Side by side -/

/-- The separators that a list gives, with its escapes replaced; an empty one separates nothing. -/
def separatorList : RawText → List RawText
  | '\\' :: c :: rest =>
    (match c with
      | 'n' => ['\n']
      | 't' => ['\t']
      | '0' => []
      | c => [c]) :: separatorList rest
  | c :: rest => [c] :: separatorList rest
  | [] => []

/-- Joins lines with separators in turn. -/
def joinedWith (separators : List RawText) (cells : List RawText) : RawText :=
  let count := max 1 separators.length
  ((cells.zipIdx).map fun (cell, n) =>
    if n = 0 then cell else (separators.getD ((n - 1) % count) []) ++ cell).flatten

/-- The rows of columns, as long as one of them goes on.  Columns that name the standard input
share its lines. -/
def pasteRows (separators : List RawText) : Nat → List (Option (List RawText)) → List RawText →
    List RawText → List RawText
  | 0, _, _, rows => rows.reverse
  | fuel + 1, columns, shared, rows =>
    let (cells, columns, shared) := columns.foldl
      (fun (state : List (Option RawText) × List (Option (List RawText)) × List RawText) column =>
        let (cells, columns, shared) := state
        match column with
        | none => (cells ++ [shared.head?], columns ++ [none], shared.drop 1)
        | some lines => (cells ++ [lines.head?], columns ++ [some (lines.drop 1)], shared))
      ([], [], shared)
    if cells.all Option.isNone then rows.reverse
    else
      pasteRows separators fuel columns shared
        (joinedWith separators (cells.map (·.getD [])) :: rows)

def runPaste (arguments : List RawText) : Tool Unit := do
  let options ← readOptions 1
    [{ key := "d", letters := "d", name := "delimiters", argument := .required },
      { key := "s", letters := "s", name := "serial" },
      { key := "z", letters := "z", name := "zero-terminated" }]
    arguments
  let separators := separatorList ((options.value? "d").getD ['\t'])
  let names := inputNames options.operands
  if options.has "s" then
    for name in names do
      match ← readOrSay name with
      | some text => putLine (joinedWith separators (plainLines text))
      | none => pure ()
  else
    let shared ← if names.contains standardInput then readOrSay standardInput else pure none
    let mut columns := []
    for name in names do
      if name == standardInput then columns := columns ++ [none]
      else
        match ← readFile name with
        | .ok text => columns := columns ++ [some (plainLines text)]
        | .error fault =>
          sayFault name fault
          exit 1
    let lines := plainLines (shared.getD [])
    let longest := columns.foldl (fun n column => max n ((column.map List.length).getD 0))
      lines.length
    for row in pasteRows separators (longest + 1) columns lines [] do
      putLine row

/-! ## Repeated lines -/

def uniqueRules : List OptionRule :=
  [{ key := "c", letters := "c", name := "count" }, { key := "d", letters := "d", name := "repeated" },
    { key := "D", letters := "D" }, { key := "u", letters := "u", name := "unique" },
    { key := "i", letters := "i", name := "ignore-case" },
    { key := "f", letters := "f", name := "skip-fields", argument := .required },
    { key := "s", letters := "s", name := "skip-chars", argument := .required },
    { key := "w", letters := "w", name := "check-chars", argument := .required },
    { key := "z", letters := "z", name := "zero-terminated" }]

def withoutFields : Nat → RawText → RawText
  | 0, text => text
  | n + 1, text =>
    withoutFields n ((text.dropWhile isBlankByte).dropWhile fun c => !isBlankByte c)

/-- The groups of neighbouring lines with the same key. -/
def groupLines (key : RawText → RawText) : List RawText → List (List RawText)
  | [] => []
  | line :: lines =>
    match groupLines key lines with
    | (next :: group) :: groups =>
      if key line == key next then (line :: next :: group) :: groups
      else [line] :: (next :: group) :: groups
    | groups => [line] :: groups

def countOption (options : GivenOptions) (key : String) (message : String) : Tool (Option Nat) := do
  match options.value? key with
  | none => return none
  | some text =>
    match natural? text with
    | some n => return some n
    | none => fail 1 (text ++ raw ": " ++ raw message)

def runUnique (arguments : List RawText) : Tool Unit := do
  let options ← readOptions 1 uniqueRules arguments
  let fields := (← countOption options "f" "invalid number of fields to skip").getD 0
  let skipped := (← countOption options "s" "invalid number of bytes to skip").getD 0
  let checked ← countOption options "w" "invalid number of bytes to compare"
  match options.operands.drop 2 with
  | extra :: _ => extraOperand 1 extra
  | [] => pure ()
  let key := fun (line : RawText) =>
    let rest := (withoutFields fields line).drop skipped
    let rest := match checked with | some n => rest.take n | none => rest
    if options.has "i" then rest.map Char.toUpper else rest
  match ← readFile (options.operands.headD standardInput) with
  | .error fault =>
    sayFault (options.operands.headD []) fault
    exit 1
  | .ok text =>
    let mut shown := []
    for group in groupLines key (plainLines text) do
      let isShown := if options.has "u" && (options.has "d" || options.has "D") then false
        else if options.has "u" then group.length == 1
        else if options.has "d" || options.has "D" then 1 < group.length
        else true
      if isShown then
        let lines := if options.has "D" then group else group.take 1
        for line in lines do
          let count := if options.has "c" then padLeft 7 (naturalText group.length) ++ [' '] else []
          shown := (count ++ line ++ ['\n']) :: shown
    let out := shown.reverse.flatten
    match options.operands[1]? with
    | none | some ['-'] => put out
    | some name =>
      match ← writeFile name out false with
      | .ok () => pure ()
      | .error fault => fail 1 (shownName name ++ raw ": " ++ raw fault.description)

/-! ## Two sorted files -/

/-- A row of the comparison of two sorted lists: in the first only, the second only, or both. -/
inductive Compared
  | first (line : RawText)
  | second (line : RawText)
  | both (line : RawText)

def compareSorted : Nat → List RawText → List RawText → List Compared
  | 0, _, _ => []
  | _, [], second => second.map .second
  | _, first, [] => first.map .first
  | fuel + 1, a :: first, b :: second =>
    match compareRaw a b with
    | .lt => .first a :: compareSorted fuel first (b :: second)
    | .gt => .second b :: compareSorted fuel (a :: first) second
    | .eq => .both a :: compareSorted fuel first second

def isSortedList : List RawText → Bool
  | a :: b :: rest => textBefore a b && isSortedList (b :: rest)
  | _ => true

def runCompareLines (arguments : List RawText) : Tool Unit := do
  let options ← readOptions 1
    (letterRules "123" ++
      [{ key := "output", name := "output-delimiter", argument := .required },
        { key := "check", name := "check-order" }, { key := "nocheck", name := "nocheck-order" },
        { key := "total", name := "total" }])
    arguments
  match options.operands with
  | [] => missingOperand 1
  | [a] => misuse 1 (raw "missing operand after " ++ quoted a)
  | _ :: _ :: extra :: _ => extraOperand 1 extra
  | [a, b] =>
    let linesOf := fun (name : RawText) => do
      match ← readFile name with
      | .ok text => pure (plainLines text)
      | .error fault =>
        sayFault name fault
        exit 1
    let first ← linesOf a
    let second ← linesOf b
    let separator := (options.value? "output").getD ['\t']
    let indent := fun (hidden : List String) =>
      (hidden.filter fun key => !options.has key).flatMap fun _ => separator
    let rows := compareSorted (first.length + second.length + 1) first second
    for row in rows do
      match row with
      | .first line => if !options.has "1" then putLine line
      | .second line => if !options.has "2" then putLine (indent ["1"] ++ line)
      | .both line => if !options.has "3" then putLine (indent ["1", "2"] ++ line)
    let differs := rows.any fun row => match row with | .both _ => false | _ => true
    if differs && !options.has "nocheck" then
      if !isSortedList first then say (raw "file 1 is not in sorted order")
      if !isSortedList second then say (raw "file 2 is not in sorted order")
      if !isSortedList first || !isSortedList second then
        fail 1 (raw "input is not in sorted order")

/-- A line as the fields by which lines are joined. -/
def joinFields (separator : Option Char) (line : RawText) : List RawText :=
  match separator with
  | some c => splitAtAll c line
  | none => (line.splitOnP isBlankByte).filter fun field => !field.isEmpty

/-- Which fields a joined line shows: the key, or a field of one of the two files. -/
inductive JoinColumn
  | key
  | field (file place : Nat)

def joinColumn? (text : RawText) : Option JoinColumn :=
  match text with
  | ['0'] => some .key
  | '1' :: '.' :: digits => (natural? digits).map fun n => .field 1 (n - 1)
  | '2' :: '.' :: digits => (natural? digits).map fun n => .field 2 (n - 1)
  | _ => none

structure JoinFormat where
  separator : Option Char
  firstKey : Nat
  secondKey : Nat
  foldsCase : Bool
  empty : RawText
  columns : Option (List JoinColumn)

def JoinFormat.keyText (format : JoinFormat) (place : Nat) (fields : List RawText) : RawText :=
  let text := fields.getD place []
  if format.foldsCase then text.map Char.toLower else text

def JoinFormat.show (format : JoinFormat) (key : RawText) (first second : List RawText) : RawText :=
  let filled := fun (text : Option RawText) =>
    match text with
    | some [] | none => format.empty
    | some text => text
  let fields :=
    match format.columns with
    | some columns =>
      columns.map fun column =>
        match column with
        | .key => filled (some key)
        | .field 1 place => filled first[place]?
        | .field _ place => filled second[place]?
    | none => key :: (first.eraseIdx format.firstKey ++ second.eraseIdx format.secondKey)
  [format.separator.getD ' '].intercalate fields

/-- The rows of two sorted lists of lines joined by their keys: which of the two files a line
without a partner is from, or zero, and the row. -/
def joinRows (format : JoinFormat) :
    Nat → List (List RawText) → List (List RawText) → List (Nat × RawText)
  | 0, _, _ => []
  | fuel + 1, first, second =>
    let keyOf := format.keyText format.firstKey
    let otherKeyOf := format.keyText format.secondKey
    let alone := fun (a : List RawText) => (1, format.show (a.getD format.firstKey []) a [])
    let otherAlone := fun (b : List RawText) => (2, format.show (b.getD format.secondKey []) [] b)
    match first, second with
    | [], [] => []
    | a :: first, [] => alone a :: joinRows format fuel first []
    | [], b :: second => otherAlone b :: joinRows format fuel [] second
    | a :: first, b :: second =>
      match compareRaw (keyOf a) (otherKeyOf b) with
      | .lt => alone a :: joinRows format fuel first (b :: second)
      | .gt => otherAlone b :: joinRows format fuel (a :: first) second
      | .eq =>
        let group := a :: first.takeWhile fun other => keyOf other == keyOf a
        let partners := b :: second.takeWhile fun other => otherKeyOf other == keyOf a
        (group.flatMap fun a => partners.map fun b =>
          (0, format.show (a.getD format.firstKey []) a b)) ++
          joinRows format fuel ((a :: first).drop group.length) ((b :: second).drop partners.length)

def joinRules : List OptionRule :=
  (["1", "2", "j", "t", "a", "v", "e", "o"].map fun letter =>
    { key := letter, letters := letter, argument := OptionArgument.required }) ++
    [{ key := "i", letters := "i", name := "ignore-case" }, { key := "nocheck", name := "nocheck-order" },
      { key := "check", name := "check-order" }, { key := "header", name := "header" }]

def runJoin (arguments : List RawText) : Tool Unit := do
  let options ← readOptions 1 joinRules arguments
  match options.operands with
  | [] => missingOperand 1
  | [a] => misuse 1 (raw "missing operand after " ++ quoted a)
  | _ :: _ :: extra :: _ => extraOperand 1 extra
  | [a, b] =>
    let place := fun (key : String) => do
      match (options.value? key).orElse fun _ => options.value? "j" with
      | none => pure 0
      | some text =>
        match (natural? text).filter (0 < ·) with
        | some n => pure (n - 1)
        | none => fail 1 (raw "invalid field number: " ++ quoted text)
    let columns :=
      match options.values "o" with
      | [] => none
      | texts => (texts.flatMap fun (text : RawText) =>
          (text.splitOnP fun c => c == ',' || c == ' ')).mapM joinColumn?
    let format : JoinFormat :=
      { separator := (options.value? "t").bind List.head?
        firstKey := ← place "1", secondKey := ← place "2"
        foldsCase := options.has "i"
        empty := (options.value? "e").getD [], columns := columns }
    let linesOf := fun (name : RawText) => do
      match ← readFile name with
      | .ok text => pure ((plainLines text).map (joinFields format.separator))
      | .error fault =>
        sayFault name fault
        exit 1
    let first ← linesOf a
    let second ← linesOf b
    let only := options.values "v"
    let shownAlone := options.values "a" ++ only
    for (file, row) in joinRows format (first.length + second.length + 1) first second do
      if if file = 0 then only.isEmpty else shownAlone.contains (naturalText file) then putLine row

end KeyJoin.Tools
