import KeyJoin.Host.Conversion
import KeyJoin.Tools.Options
import KeyJoin.Tools.Stream

/-!
# Sorting lines

A tool that puts lines in order.  Keys are parts of a line that begin and end at
fields or characters; each is compared as text, as a number, as a month or as a
version, and the next key decides where two are equal.  Where all keys are
equal the whole lines decide, unless only one of them is wanted or their order
is to stay.
-/

namespace KeyJoin.Tools

open Tool

/-! ## Comparisons -/

inductive KeyOrder
  | text
  | number
  | general
  | sized
  | month
  | version
  deriving DecidableEq, Repr

/-- A number in decimal notation: its sign, its digits before the point without leading zeros, and
those after it without zeros at the end. -/
structure DecimalText where
  isNegative : Bool
  whole : RawText
  places : RawText
  rest : RawText

def readDecimalText (text : RawText) : DecimalText :=
  let text := text.dropWhile isBlankByte
  let (isNegative, body) :=
    match text with
    | '-' :: rest => (true, rest)
    | _ => (false, text)
  let whole := body.takeWhile Char.isDigit
  let rest := body.drop whole.length
  let (places, rest) :=
    match rest with
    | '.' :: after =>
      let places := after.takeWhile Char.isDigit
      (places, after.drop places.length)
    | _ => ([], rest)
  let whole := whole.dropWhile (· == '0')
  let places := trimEndOf (· == '0') places
  ⟨isNegative && !(whole.isEmpty && places.isEmpty), whole, places, rest⟩

def compareMagnitudes (a b : DecimalText) : Ordering :=
  (compare a.whole.length b.whole.length).then
    ((compareRaw a.whole b.whole).then (compareRaw a.places b.places))

def compareDecimals (a b : DecimalText) : Ordering :=
  match a.isNegative, b.isNegative with
  | false, false => compareMagnitudes a b
  | true, true => compareMagnitudes b a
  | true, false => .lt
  | false, true => .gt

/-- How large the unit after a number is. -/
def unitRank (number : DecimalText) : Nat :=
  match number.rest with
  | c :: _ =>
    ((["", "Kk", "M", "G", "T", "P", "E", "Z", "Y", "R", "Q"].zipIdx.find? fun (letters, _) =>
      letters.toList.contains c).map (·.2)).getD 0
  | [] => 0

def compareSized (a b : DecimalText) : Ordering :=
  let signed (number : DecimalText) : Int :=
    let isZero := number.whole.isEmpty && number.places.isEmpty
    let rank : Int := if isZero then 0 else unitRank number + 1
    if number.isNegative then -rank else rank
  (compare (signed a) (signed b)).then (compareDecimals a b)

/-- No number comes first, then what is not a number, then the numbers by their values. -/
def compareGeneral (a b : RawText) : Ordering :=
  let rank := fun (value : Option (Float × RawText)) =>
    match value with
    | none => 0
    | some (x, _) => if x.isNaN then 1 else 2
  let x := readFloat? a
  let y := readFloat? b
  match x, y with
  | some (x, _), some (y, _) =>
    if x < y then .lt else if y < x then .gt else compare (rank (some (x, []))) (rank (some (y, [])))
  | x, y => compare (rank x) (rank y)

def monthRank (text : RawText) : Nat :=
  let name := String.ofList (((text.dropWhile isBlankByte).take 3).map Char.toUpper)
  ((["JAN", "FEB", "MAR", "APR", "MAY", "JUN", "JUL", "AUG", "SEP", "OCT", "NOV", "DEC"].idxOf? name).map
    (· + 1)).getD 0

/-- The rank of a character in versions: a tilde before the end, the end before letters, and letters
before all others. -/
def versionRank : Option Char → Int
  | none => -1
  | some c => if c == '~' then -2 else if c.isAlpha then c.toNat else if c.isDigit then 0
      else c.toNat + 256

/-- Compares versions: runs of other characters by their ranks and runs of digits by their values, in
turn. -/
def compareVersions : Nat → RawText → RawText → Ordering
  | 0, _, _ => .eq
  | fuel + 1, a, b =>
    let wordsOf := fun (text : RawText) => text.takeWhile fun c => !c.isDigit
    let wordA := wordsOf a
    let wordB := wordsOf b
    let rec words : Nat → RawText → RawText → Ordering
      | 0, _, _ => .eq
      | n + 1, x, y =>
        if x.isEmpty && y.isEmpty then .eq
        else
          (compare (versionRank x.head?) (versionRank y.head?)).then (words n (x.drop 1) (y.drop 1))
    let afterA := a.drop wordA.length
    let afterB := b.drop wordB.length
    let ended := fun (word after : RawText) => if after.isEmpty then word else word ++ ['0']
    let byWords := words (wordA.length + wordB.length + 2) (ended wordA afterA) (ended wordB afterB)
    let digitsA := afterA.takeWhile Char.isDigit
    let digitsB := afterB.takeWhile Char.isDigit
    let byDigits := compare (readInBase 10 digitsA) (readInBase 10 digitsB)
    let restA := afterA.drop digitsA.length
    let restB := afterB.drop digitsB.length
    let onward :=
      if restA.isEmpty && restB.isEmpty then .eq else compareVersions fuel restA restB
    byWords.then (byDigits.then onward)

/-! ## Keys -/

structure KeyStyle where
  order : KeyOrder := .text
  isReversed : Bool := false
  folds : Bool := false
  onlyPrinted : Bool := false
  onlyWords : Bool := false
  skipsStart : Bool := false
  skipsEnd : Bool := false

/-- Whether a style says no more than the usual order. -/
def KeyStyle.isPlain (style : KeyStyle) : Bool :=
  style.order == .text && !style.folds && !style.onlyPrinted && !style.onlyWords &&
    !style.skipsStart && !style.skipsEnd

/-- A key: the fields to skip in front of it and the characters after them, and its last field with
the characters of that; without a last field it goes to the end of the line. -/
structure SortKey where
  firstField : Nat := 0
  firstCharacter : Nat := 0
  lastField : Option Nat := none
  lastCharacter : Nat := 0
  style : KeyStyle := {}

def isFieldBlank (c : Char) : Bool :=
  isBlankByte c || c == '\n'

/-- A line without its first fields. -/
def afterFields (separator : Option Char) : Nat → RawText → RawText
  | 0, text => text
  | n + 1, text =>
    match separator with
    | some mark => afterFields separator n ((text.dropWhile (· != mark)).drop 1)
    | none => afterFields separator n ((text.dropWhile isFieldBlank).dropWhile fun c => !isFieldBlank c)

/-- A line from the end of its first fields on, the separator after them left in. -/
def atFieldEnd (separator : Option Char) (fields : Nat) (text : RawText) : RawText :=
  match separator, fields with
  | some mark, n + 1 => (afterFields separator n text).dropWhile (· != mark)
  | _, n => afterFields separator n text

/-- The part of a line that a key stands for. -/
def SortKey.partOf (key : SortKey) (separator : Option Char) (line : RawText) : RawText :=
  let start := afterFields separator key.firstField line
  let start := if key.style.skipsStart then start.dropWhile isFieldBlank else start
  let start := start.drop key.firstCharacter
  match key.lastField with
  | none => start
  | some field =>
    let rest :=
      if key.lastCharacter = 0 then atFieldEnd separator (field + 1) line
      else
        let rest := afterFields separator field line
        let rest := if key.style.skipsEnd then rest.dropWhile isFieldBlank else rest
        rest.drop key.lastCharacter
    start.take (start.length - rest.length)

def KeyStyle.compareParts (style : KeyStyle) (a b : RawText) : Ordering :=
  let shown := fun (text : RawText) =>
    let text :=
      if style.onlyWords then text.filter fun c => isBlankByte c || c.isAlphanum
      else if style.onlyPrinted then text.filter isPrintByte
      else text
    if style.folds then text.map Char.toUpper else text
  let result :=
    match style.order with
    | .text => compareRaw (shown a) (shown b)
    | .number => compareDecimals (readDecimalText a) (readDecimalText b)
    | .general => compareGeneral a b
    | .sized => compareSized (readDecimalText a) (readDecimalText b)
    | .month => compare (monthRank a) (monthRank b)
    | .version => compareVersions (a.length + b.length + 1) (shown a) (shown b)
  if style.isReversed then result.swap else result

/-- How lines are compared. -/
structure LineOrder where
  keys : List SortKey
  separator : Option Char
  isReversed : Bool
  keysDecide : Bool

def LineOrder.compareKeys (order : LineOrder) (a b : RawText) : Ordering :=
  order.keys.foldl
    (fun result key =>
      result.then (key.style.compareParts (key.partOf order.separator a)
        (key.partOf order.separator b)))
    .eq

def LineOrder.compareLines (order : LineOrder) (a b : RawText) : Ordering :=
  let byKeys := order.compareKeys a b
  if byKeys != .eq || (order.keysDecide && !order.keys.isEmpty) then byKeys
  else
    let whole := compareRaw a b
    if order.isReversed then whole.swap else whole

/-! ## Options -/

/-- What a letter of an order adds to a style. -/
def styleLetter? (style : KeyStyle) (isStart isEnd : Bool) : Char → Option KeyStyle
  | 'b' =>
    some { style with
      skipsStart := style.skipsStart || isStart, skipsEnd := style.skipsEnd || isEnd }
  | 'd' => some { style with onlyWords := true }
  | 'f' => some { style with folds := true }
  | 'g' => some { style with order := .general }
  | 'h' => some { style with order := .sized }
  | 'i' => some { style with onlyPrinted := true }
  | 'M' => some { style with order := .month }
  | 'n' => some { style with order := .number }
  | 'r' => some { style with isReversed := true }
  | 'V' => some { style with order := .version }
  | _ => none

def styleLetters (isStart isEnd : Bool) : RawText → KeyStyle → KeyStyle × RawText
  | [], style => (style, [])
  | c :: rest, style =>
    match styleLetter? style isStart isEnd c with
    | some style => styleLetters isStart isEnd rest style
    | none => (style, c :: rest)

def invalidKey {α : Type} (explanation : String) (text : RawText) : Tool α :=
  fail 2 (raw explanation ++ raw ": invalid field specification " ++ quoted text)

/-- A number of a key and what follows it. -/
def keyNumber (explanation : String) (text : RawText) : Tool (Nat × RawText) := do
  let digits := text.takeWhile Char.isDigit
  if digits.isEmpty then
    fail 2 (raw explanation ++ raw ": invalid count at start of " ++ quoted text)
  return (readInBase 10 digits, text.drop digits.length)

def readKey (text : RawText) : Tool SortKey := do
  let (field, rest) ← keyNumber "invalid number at field start" text
  if field = 0 then invalidKey "field number is zero" text
  let (character, rest) ←
    match rest with
    | '.' :: rest => do
      let (character, rest) ← keyNumber "invalid number after '.'" rest
      if character = 0 then invalidKey "character offset is zero" text
      pure (character, rest)
    | _ => pure (1, rest)
  let (style, rest) := styleLetters true false rest {}
  let key : SortKey := { firstField := field - 1, firstCharacter := character - 1, style := style }
  match rest with
  | [] => return key
  | ',' :: rest => do
    let (field, rest) ← keyNumber "invalid number after ','" rest
    if field = 0 then invalidKey "field number is zero" text
    let (character, rest) ←
      match rest with
      | '.' :: rest => keyNumber "invalid number after '.'" rest
      | _ => pure (0, rest)
    let (style, rest) := styleLetters false true rest style
    if !rest.isEmpty then invalidKey "stray character in field spec" text
    return { key with
      lastField := some (field - 1), lastCharacter := character, style := style }
  | _ => invalidKey "stray character in field spec" text

def sortRules : List OptionRule :=
  letterRules "bdfghiMnrVcCmsuz" ++
    [{ key := "b", name := "ignore-leading-blanks" }, { key := "d", name := "dictionary-order" },
      { key := "f", name := "ignore-case" }, { key := "g", name := "general-numeric-sort" },
      { key := "h", name := "human-numeric-sort" }, { key := "i", name := "ignore-nonprinting" },
      { key := "M", name := "month-sort" }, { key := "n", name := "numeric-sort" },
      { key := "r", name := "reverse" }, { key := "V", name := "version-sort" },
      { key := "check", name := "check", argument := .possible }, { key := "m", name := "merge" },
      { key := "s", name := "stable" }, { key := "u", name := "unique" },
      { key := "z", name := "zero-terminated" },
      { key := "k", letters := "k", name := "key", argument := .required },
      { key := "o", letters := "o", name := "output", argument := .required },
      { key := "t", letters := "t", name := "field-separator", argument := .required },
      { key := "S", letters := "S", name := "buffer-size", argument := .required },
      { key := "T", letters := "T", name := "temporary-directory", argument := .required },
      { key := "parallel", name := "parallel", argument := .required }]

def readSeparator (text : RawText) : Tool Char := do
  match text with
  | [] => fail 2 (raw "empty tab")
  | [c] => return c
  | ['\\', '0'] => return '\x00'
  | _ => fail 2 (raw "multi-character tab " ++ quoted text)

/-- The first line of each group of neighbours with equal keys. -/
def firstOfEqual (isEqual : RawText → RawText → Bool) : List RawText → List RawText
  | [] => []
  | line :: lines =>
    let rec go (last : RawText) : List RawText → List RawText
      | [] => []
      | line :: lines => if isEqual last line then go last lines else line :: go line lines
    line :: go line lines

/-- The first line that is out of order, with its number. -/
def firstDisorder (isInOrder : RawText → RawText → Bool) :
    Nat → List RawText → Option (Nat × RawText)
  | _, [] => none
  | _, [_] => none
  | n, a :: b :: lines =>
    if isInOrder a b then firstDisorder isInOrder (n + 1) (b :: lines) else some (n + 1, b)

/-- The lines of a text that end in a mark, without it. -/
def markedLines (mark : Char) (text : RawText) : List RawText :=
  if text.isEmpty then []
  else splitAtAll mark (if text.getLast? == some mark then text.dropLast else text)

def runSort (arguments : List RawText) : Tool Unit := do
  let options ← readOptions 2 sortRules arguments
  let style := options.given.foldl
    (fun (style : KeyStyle) entry =>
      match entry.1.toList with
      | [c] => (styleLetter? style true true c).getD style
      | _ => style)
    {}
  let separator ← (options.value? "t").mapM readSeparator
  let keys ← (options.values "k").mapM readKey
  let keys := keys.map fun key =>
    if key.style.isPlain && !key.style.isReversed then { key with style := style } else key
  let keys := if keys.isEmpty && !style.isPlain then [{ style := style }] else keys
  let order : LineOrder :=
    { keys := keys
      separator := separator
      isReversed := style.isReversed
      keysDecide := options.has "s" || options.has "u" }
  let mark := if options.has "z" then '\x00' else '\n'
  let checks := options.has "c" || options.has "C" || options.has "check"
  if checks then
    match options.operands with
    | _ :: operand :: _ =>
      fail 2 (raw "extra operand " ++ quoted operand ++ raw " not allowed with -c")
    | _ => pure ()
  let mut lines := []
  for name in inputNames options.operands do
    match ← readFile name with
    | .ok text => lines := lines ++ markedLines mark text
    | .error .isADirectory => fail 2 (raw "read failed: " ++ name ++ raw ": Is a directory")
    | .error fault => fail 2 (raw "cannot read: " ++ name ++ raw ": " ++ raw fault.description)
  if checks then
    let isInOrder := fun (a b : RawText) =>
      let result := order.compareLines a b
      if options.has "u" then result == .lt else result != .gt
    match firstDisorder isInOrder 1 lines with
    | none => return
    | some (n, line) =>
      let isQuiet := options.has "C" ||
        (options.value? "check").any fun word => word == raw "quiet" || word == raw "silent"
      if isQuiet then exit 1
      let name := (inputNames options.operands).headD standardInput
      fail 1 (name ++ ':' :: naturalText n ++ raw ": disorder: " ++ line)
  let sorted := lines.mergeSort fun a b => order.compareLines a b != .gt
  let shown :=
    if options.has "u" then firstOfEqual (fun a b => order.compareLines a b == .eq) sorted
    else sorted
  let text := shown.flatMap fun line => line ++ [mark]
  match options.value? "o" with
  | none => put text
  | some name =>
    match ← writeFile name text false with
    | .ok () => return
    | .error fault => fail 2 (raw "open failed: " ++ name ++ raw ": " ++ raw fault.description)

end KeyJoin.Tools
