import KeyJoin.Shell.Arithmetic
import KeyJoin.Shell.Pattern
import KeyJoin.Shell.State

/-!
# Expansion of words

A word is expanded item by item into pieces: characters that patterns and field
separators may give a meaning, characters that were quoted, and marks where
quoting began or ended.  The parts in which fields may be separated are kept as
regions of the pieces.  From the pieces the fields follow, and from a field that
holds a pattern the names of the files that match it.
-/

namespace KeyJoin.Shell

inductive Piece
  | plain (c : Char)
  | quoted (c : Char)
  | mark
  deriving DecidableEq

/-- The pieces from `first` up to `last`, in which fields are separated by the field separators, or
with `atNulOnly` only between parameters. -/
structure Region where
  first : Nat
  last : Nat
  atNulOnly : Bool

/-- What has been expanded of a word; the pieces and the regions stand backwards. -/
structure Expanded where
  pieces : List Piece := []
  size : Nat := 0
  regions : List Region := []

namespace Expanded

def put (out : Expanded) (piece : Piece) : Expanded :=
  { out with pieces := piece :: out.pieces, size := out.size + 1 }

def putAll (out : Expanded) (pieces : List Piece) : Expanded :=
  pieces.foldl put out

def record (out : Expanded) (first : Nat) (atNulOnly : Bool) : Expanded :=
  { out with regions := ⟨first, out.size, atNulOnly⟩ :: out.regions }

end Expanded

/-- What is done with the parts of a word.  `isOperand` marks what follows the operator of a
variable, and with `discards` the word is read without effect. -/
structure ExpansionMode where
  splits : Bool := false
  isPattern : Bool := false
  tilde : Bool := false
  assigns : Bool := false
  isOperand : Bool := false
  isQuoted : Bool := false
  discards : Bool := false

namespace ExpansionMode

def keepsQuotes (mode : ExpansionMode) : Bool :=
  mode.splits || mode.isPattern

def put (mode : ExpansionMode) (out : Expanded) (piece : Piece) : Expanded :=
  if mode.discards then out else out.put piece

/-- A character of a value. -/
def valuePiece (mode : ExpansionMode) (c : Char) : Piece :=
  if mode.isQuoted && mode.keepsQuotes then .quoted c else .plain c

/-- Ends a run of unquoted text that began at `run`. -/
def endRun (mode : ExpansionMode) (inQuotes : Bool) (run : Option Nat) (out : Expanded) :
    Expanded :=
  match run with
  | some first =>
    if mode.isOperand && !mode.isQuoted && !inQuotes && first < out.size then
      out.record first false
    else out
  | none => out

end ExpansionMode

def pieceText : List Piece → RawText
  | [] => []
  | .plain c :: rest | .quoted c :: rest => c :: pieceText rest
  | .mark :: rest => pieceText rest

/-- A text for patterns: quoted characters are protected by backslashes. -/
def piecePattern : Bool → List Piece → RawText
  | _, [] => []
  | escaped, .plain c :: rest => c :: piecePattern (c == '\\' && !escaped) rest
  | escaped, .quoted c :: rest =>
    if escaped then c :: piecePattern false rest else '\\' :: c :: piecePattern false rest
  | escaped, .mark :: rest => piecePattern escaped rest

/-! ## Literal text -/

/-- Where the reading of literal text stopped. -/
structure LiteralStop where
  out : Expanded
  rest : List WordItem
  sawEquals : Bool
  atTilde : Bool := false

def startsWithTilde : List WordItem → Bool
  | .plain '~' :: _ => true
  | _ => false

/-- Takes characters up to another item, or up to a tilde that stands where one is expanded. -/
def takeLiteral (mode : ExpansionMode) (inQuotes : Bool) :
    List WordItem → Bool → Option Nat → Expanded → LiteralStop
  | .plain c :: rest, sawEquals, run, out =>
    let run := run.orElse fun _ => some out.size
    let isMark := mode.assigns && (c == ':' || c == '=' && !sawEquals)
    let sawEquals := sawEquals || isMark && c == '='
    let out := mode.put out (.plain c)
    if isMark && startsWithTilde rest then ⟨mode.endRun inQuotes run out, rest, sawEquals, true⟩
    else takeLiteral mode inQuotes rest sawEquals run out
  | .quoted c :: rest, sawEquals, run, out =>
    let piece := if mode.keepsQuotes then Piece.quoted c else .plain c
    takeLiteral mode inQuotes rest sawEquals none
      (mode.put (mode.endRun inQuotes run out) piece)
  | items, sawEquals, run, out => ⟨mode.endRun inQuotes run out, items, sawEquals, false⟩

/-! ## Parameters -/

/-- The parameters joined as the mode asks: as separate fields, or with the first separator
between them. -/
def joinedParameters (mode : ExpansionMode) (separate : Bool) (separators? : Option RawText)
    (parameters : List RawText) : List Piece :=
  let separator : List Piece :=
    if mode.splits && mode.isQuoted && separate then [.plain '\x00']
    else if mode.splits && !mode.isQuoted then
      [.plain (if separators?.isSome then '\x00' else ' ')]
    else ((separators?.getD [' ']).take 1).map mode.valuePiece
  separator.intercalate (parameters.map fun text => text.map mode.valuePiece)

/-- The value of a parameter, or nothing if it is not set. -/
def parameterValue? (mode : ExpansionMode) (name : RawText) : Sh (Option (List Piece)) := do
  let state ← get
  let text := fun (text : RawText) => some (text.map mode.valuePiece)
  match name with
  | ['$'] => return text (naturalText state.rootId)
  | ['?'] => return text (naturalText state.status)
  | ['#'] => return text (naturalText state.positional.length)
  | ['!'] => return state.lastBackground.bind fun id => text (naturalText id)
  | ['-'] => return text (Sh.listedOptions state)
  | ['@'] => return some (joinedParameters mode true (← Sh.valueOf? (raw "IFS")) state.positional)
  | ['*'] => return some (joinedParameters mode false (← Sh.valueOf? (raw "IFS")) state.positional)
  | name =>
    match natural? name with
    | some 0 => return text state.commandName
    | some n => return (state.positional[n - 1]?).bind text
    | none => return (← Sh.valueOf? name).bind text

/-- The home directory of a user. -/
def homeOf? (user : RawText) : Sh (Option RawText) := do
  if user.isEmpty then Sh.valueOf? (raw "HOME")
  else
    match ← ask (.openFile (raw "/etc/passwd") { reads := true }) with
    | .error _ => return none
    | .ok number =>
      let text ← ask (.read number 65536)
      let _ ← ask (.close number)
      let rows := (plainLines (text.toOption.getD [])).map (splitAtAll ':')
      return (rows.find? fun row => row.head? == some user).bind (·[5]?)

/-- The name after a tilde, if it is followed by nothing that is quoted, and what follows it. -/
def tildeName? (mode : ExpansionMode) : List WordItem → RawText → Option (RawText × List WordItem)
  | [], name => some (name.reverse, [])
  | .plain c :: rest, name =>
    if c == '/' || (c == ':' && mode.assigns) then some (name.reverse, .plain c :: rest)
    else tildeName? mode rest (c :: name)
  | .closeVariable :: rest, name => some (name.reverse, .closeVariable :: rest)
  | _, _ => none

/-- Expands a tilde that the items may begin with. -/
def expandTilde (mode : ExpansionMode) (items : List WordItem) (out : Expanded) :
    Sh (Expanded × List WordItem) := do
  match items with
  | .plain '~' :: rest =>
    match tildeName? mode rest [] with
    | none => return (out, items)
    | some (name, after) =>
      if mode.discards then return (out, after)
      match ← homeOf? name with
      | none => return (out, items)
      | some home =>
        return (out.putAll (home.map { mode with isQuoted := true }.valuePiece), after)
  | _ => return (out, items)

def unsetMessage (name : RawText) : RawText :=
  name ++ raw ": parameter not set"

/-- What is said of a missing parameter that has to be there. -/
def missingMessage (name : RawText) (orEmpty hasOwn : Bool) (own : RawText) : RawText :=
  if hasOwn then name ++ raw ": " ++ own
  else unsetMessage name ++ (if orEmpty then raw " or null" else [])

/-- Records what was put since `first` for the separation of fields. -/
def recordValue (mode : ExpansionMode) (name : RawText) (first : Nat) (out : Expanded) :
    Sh Expanded := do
  if mode.isQuoted then
    if name == ['@'] && !(← get).positional.isEmpty then return out.record first true
    else return out
  else return out.record first false

/-- The pieces without the part that a pattern matches at their start or their end. -/
def trimPieces (operation : VariableOperation) (pattern : List PatternItem) (pieces : List Piece) :
    List Piece :=
  let text := pieceText pieces
  match operation with
  | .withoutStart longest =>
    pieces.drop (text.length - (dropMatchingStart longest pattern text).length)
  | .withoutEnd longest => pieces.take (dropMatchingEnd longest pattern text).length
  | _ => pieces

/-- The value of an arithmetic expression; what it assigns is assigned. -/
def arithmeticValue (expression : RawText) : Sh Int := do
  let state ← get
  let values := fun (name : RawText) =>
    (state.bindings.find? fun v => v.name == name).bind (·.value?)
  match evaluateExpression values expression with
  | .error fault => Sh.fail (fault.message expression)
  | .ok (value, assigned) =>
    for (name, value) in assigned do
      Sh.setVariable name (integerText value)
    return value

mutual

/-- Expands items up to the end of the word or of the variable they belong to, and gives what
follows. -/
def expandItems (capture : Command → Sh RawText) : Nat → ExpansionMode → List WordItem → Expanded →
    Sh (Expanded × List WordItem)
  | 0, _, _, out => return (out, [])
  | fuel + 1, mode, items, out => do
    let (out, items) ← if mode.tilde then expandTilde mode items out else pure (out, items)
    expandOn capture fuel { mode with tilde := false } false false items out

/-- Goes on within a word; `inQuotes` tells whether this part of it is quoted. -/
def expandOn (capture : Command → Sh RawText) : Nat → ExpansionMode → Bool → Bool →
    List WordItem → Expanded → Sh (Expanded × List WordItem)
  | 0, _, _, _, _, out => return (out, [])
  | fuel + 1, mode, inQuotes, sawEquals, items, out => do
    let stop := takeLiteral mode inQuotes items sawEquals none out
    let out := stop.out
    let sawEquals := stop.sawEquals
    let inner := { mode with isQuoted := mode.isQuoted || inQuotes }
    if stop.atTilde then
      let (out, rest) ← expandTilde mode stop.rest out
      let (out, rest) :=
        match rest with
        | .plain '~' :: rest => (mode.put out (.plain '~'), rest)
        | rest => (out, rest)
      expandOn capture fuel mode inQuotes sawEquals rest out
    else
      match stop.rest with
      | [] => return (out, [])
      | .closeVariable :: rest | .closeArithmetic :: rest => return (out, rest)
      | .quoteMark :: rest =>
        match inQuotes, rest with
        | false, .openVariable ['@'] .value false :: .closeVariable :: .quoteMark :: rest =>
          let (out, _) ←
            expandVariable capture fuel { mode with isQuoted := true } ['@'] .value false
              [.closeVariable] out
          expandOn capture fuel mode inQuotes sawEquals rest out
        | _, _ =>
          let out := if mode.keepsQuotes then mode.put out .mark else out
          expandOn capture fuel mode (!inQuotes) sawEquals rest out
      | .openVariable name operation orEmpty :: rest =>
        let (out, rest) ← expandVariable capture fuel inner name operation orEmpty rest out
        expandOn capture fuel mode inQuotes sawEquals rest out
      | .command body :: rest =>
        if mode.discards then expandOn capture fuel mode inQuotes sawEquals rest out
        else
          let first := out.size
          let text ← match body with
            | some body => capture body
            | none => pure []
          let text := trimEndOf (· == '\n') (text.filter (· != '\x00'))
          let out := out.putAll (text.map inner.valuePiece)
          let out := if inner.isQuoted then out else out.record first false
          expandOn capture fuel mode inQuotes sawEquals rest out
      | .openArithmetic :: rest =>
        let (expression, rest) ←
          expandItems capture fuel { discards := mode.discards } rest {}
        if mode.discards then expandOn capture fuel mode inQuotes sawEquals rest out
        else
          let first := out.size
          let value ← arithmeticValue (pieceText expression.pieces.reverse)
          let out := out.putAll ((integerText value).map inner.valuePiece)
          let out := if inner.isQuoted then out else out.record first false
          expandOn capture fuel mode inQuotes sawEquals rest out
      | .plain _ :: rest | .quoted _ :: rest =>
        expandOn capture fuel mode inQuotes sawEquals rest out

/-- Expands a variable whose name and operation have been read. -/
def expandVariable (capture : Command → Sh RawText) : Nat → ExpansionMode → RawText →
    VariableOperation → Bool → List WordItem → Expanded → Sh (Expanded × List WordItem)
  | 0, _, _, _, _, _, out => return (out, [])
  | fuel + 1, mode, name, operation, orEmpty, items, out => do
    let first := out.size
    if operation == .unknown && !mode.discards then Sh.fail (raw "Bad substitution")
    let isCounted := operation == .length || operation == .ifPresent
    let valueMode := if isCounted then { mode with splits := false, isPattern := false } else mode
    let value? ← parameterValue? valueMode name
    let value := value?.getD []
    let isMissing := value?.isNone || orEmpty && value.isEmpty
    let operand := fun (isWanted : Bool) =>
      expandItems capture fuel
        { mode with tilde := true, isOperand := true, discards := mode.discards || !isWanted } items
    match operation with
    | .ifPresent =>
      let (out, rest) ← operand (!isMissing) out
      if mode.discards || !isMissing then return (out, rest)
      return (← recordValue mode name first out, rest)
    | .orDefault =>
      let out := if mode.discards then out else out.putAll value
      let (out, rest) ← operand isMissing out
      if mode.discards || isMissing then return (out, rest)
      return (← recordValue mode name first out, rest)
    | .orAssign | .orFail =>
      let isWanted := isMissing && !mode.discards
      let (own, rest) ← expandItems capture fuel { tilde := true, discards := !isWanted } items {}
      let text := pieceText own.pieces.reverse
      if !isWanted then
        if mode.discards then return (out, rest)
        return (← recordValue mode name first (out.putAll value), rest)
      if operation == .orFail then
        let hasOwn := match items with
          | .closeVariable :: _ => false
          | _ => true
        Sh.fail (missingMessage name orEmpty hasOwn text)
      Sh.setVariable name text
      let (out, _) ← expandVariable capture fuel mode name .value false [.closeVariable] out
      return (out, rest)
    | _ =>
      if value?.isNone && !mode.discards && (← Sh.hasOption 'u') then
        Sh.fail (unsetMessage name)
      match operation with
      | .value =>
        let rest := if orEmpty then items else items.drop 1
        if mode.discards || isMissing then return (out, rest)
        return (← recordValue mode name first (out.putAll value), rest)
      | .length =>
        let rest := items.drop 1
        if mode.discards then return (out, rest)
        let length := naturalText value.length
        return (← recordValue mode name first (out.putAll (length.map mode.valuePiece)), rest)
      | _ =>
        let discards := mode.discards || value?.isNone
        let (own, rest) ←
          expandItems capture fuel { tilde := true, isPattern := true, discards := discards }
            items {}
        if discards then return (out, rest)
        let pattern := patternOf (piecePattern false own.pieces.reverse)
        return (← recordValue mode name first (out.putAll (trimPieces operation pattern value)), rest)

end

/-! ## Fields -/

def isDefaultSeparator (c : Char) : Bool :=
  c == ' ' || c == '\t' || c == '\n' || c == '\x00'

/-- How far the separation of fields has come: the fields so far, backwards, where the next one
begins, whether blanks are being skipped, from where the end of the last field would be cut off,
and how many fields may still be separated. -/
structure Splitting where
  fields : List (List Piece) := []
  start : Nat := 0
  skipsBlanks : Bool := false
  cut : Option Nat := none
  left : Option Nat := none

def slice (pieces : Array Piece) (first last : Nat) : List Piece :=
  (pieces.extract first last).toList

/-- Goes over the piece at `at_`; `separators` has no characters where only parameters are
separated. -/
def splitAtPiece (pieces : Array Piece) (separators : RawText) (keepsBlanks : Bool)
    (state : Splitting) (at_ : Nat) : Splitting :=
  let c? : Option Char :=
    match pieces[at_]? with
    | some (.plain c) | some (.quoted c) => some c
    | _ => none
  let isSeparator := (c?.map fun c => c == '\x00' || separators.contains c).getD false
  let isBlank := isSeparator && (c?.map isDefaultSeparator).getD false
  if state.left == some 0 then
    if isBlank then { state with cut := state.cut.orElse fun _ => some at_ }
    else
      { state with
        cut := if isSeparator && state.skipsBlanks then state.cut else none
        skipsBlanks := false }
  else
    let (state, isSeparator, isDone) :=
      if state.skipsBlanks then
        ({ state with start := if isSeparator then at_ + 1 else at_ }, false, isBlank)
      else (state, isSeparator, false)
    if isDone then state
    else if isSeparator then
      let skips := if keepsBlanks then state.skipsBlanks else isBlank
      if at_ == state.start && skips then { state with start := at_ + 1, skipsBlanks := false }
      else
        match state.left with
        | some 1 => { state with left := some 0, cut := some at_, skipsBlanks := skips }
        | left =>
          { state with
            left := left.map (· - 1)
            fields := slice pieces state.start at_ :: state.fields
            start := at_ + 1
            skipsBlanks := skips }
    else { state with skipsBlanks := false }

def splitRegion (pieces : Array Piece) (separators : RawText) (afterNul : Bool) (state : Splitting)
    (region : Region) : Splitting :=
  let separators := if region.atNulOnly then [] else separators
  (List.range' region.first (region.last - region.first)).foldl
    (splitAtPiece pieces separators (afterNul || region.atNulOnly))
    { state with skipsBlanks := false }

def splitRegions (pieces : Array Piece) (separators : RawText) :
    Bool → Splitting → List Region → Splitting × Bool
  | afterNul, state, [] => (state, afterNul)
  | afterNul, state, region :: regions =>
    splitRegions pieces separators region.atNulOnly
      (splitRegion pieces separators afterNul state region) regions

/-- The fields of an expanded word, at most `limit` of them if there is a limit. -/
def splitFields (separators : RawText) (limit : Option Nat) (out : Expanded) : List (List Piece) :=
  let pieces := out.pieces.reverse.toArray
  let (state, endsAtNul) :=
    splitRegions pieces separators false { left := limit } out.regions.reverse
  let last := slice pieces state.start ((state.cut.filter fun _ => !endsAtNul).getD pieces.size)
  if last.isEmpty && !endsAtNul then state.fields.reverse else (last :: state.fields).reverse

/-! ## Names of files -/

/-- Whether a bracket expression that was opened is closed before a slash. -/
def closesBracket : RawText → Bool
  | '!' :: rest => go rest
  | rest => go rest
where
  go : RawText → Bool
    | [] | '/' :: _ => false
    | '\\' :: rest =>
      match rest with
      | [] | '/' :: _ => false
      | _ :: ']' :: _ => true
      | _ :: rest => go rest
    | _ :: ']' :: _ => true
    | _ :: rest => go rest

/-- A pattern at its first part with a meaning: what stands before that part, the part, and what
follows the slash after it. -/
structure PathPattern where
  before : RawText
  part : RawText
  after? : Option RawText
  hasMeaning : Bool

def splitPathPattern : Nat → RawText → RawText → RawText → Bool → PathPattern
  | 0, before, part, _, hasMeaning => ⟨before, part.reverse, none, hasMeaning⟩
  | fuel + 1, before, part, text, hasMeaning =>
    let slash := fun (mark rest : RawText) =>
      if hasMeaning then ⟨before, part.reverse, some rest, true⟩
      else splitPathPattern fuel (before ++ part.reverse ++ mark) [] rest false
    match text with
    | [] => ⟨before, part.reverse, none, hasMeaning⟩
    | '\\' :: '/' :: rest => slash ['\\', '/'] rest
    | '\\' :: c :: rest => splitPathPattern fuel before (c :: '\\' :: part) rest hasMeaning
    | '/' :: rest => slash ['/'] rest
    | c :: rest =>
      let means := c == '*' || c == '?' || c == '[' && closesBracket rest
      splitPathPattern fuel before (c :: part) rest (hasMeaning || means)

def withoutEscapes : RawText → RawText
  | '\\' :: c :: rest => c :: withoutEscapes rest
  | c :: rest => c :: withoutEscapes rest
  | [] => []

/-- The paths below a directory that match a pattern; `directory` ends in a slash if it is not
empty. -/
def matchingPaths : Nat → RawText → RawText → Sh (List RawText)
  | 0, _, _ => return []
  | fuel + 1, directory, pattern => do
    let split := splitPathPattern (pattern.length + 1) [] [] pattern false
    if !split.hasMeaning then
      if directory.isEmpty then return []
      let path := directory ++ withoutEscapes pattern
      match ← ask (.statusOf path false) with
      | .ok _ => return [path]
      | .error _ => return []
    else
      let directory := directory ++ withoutEscapes split.before
      match ← ask (.namesIn (if directory.isEmpty then ['.'] else directory)) with
      | .error _ => return []
      | .ok names =>
        let showsHidden :=
          match split.part with
          | '.' :: _ | '\\' :: '.' :: _ => true
          | _ => false
        let items := patternOf split.part
        let names := if showsHidden then ['.'] :: ['.', '.'] :: names else names
        let names := names.filter fun name =>
          (showsHidden || name.head? != some '.') && matchesPattern items name
        match split.after? with
        | none => return names.map (directory ++ ·)
        | some after =>
          let mut paths := []
          for name in names do
            paths := paths ++ (← matchingPaths fuel (directory ++ name ++ ['/']) after)
          return paths

/-- The files that a field stands for, or the field itself if there are none. -/
def filesOfField (field : List Piece) : Sh (List RawText) := do
  let text := pieceText field
  if (← Sh.hasOption 'f') || !(text.any fun c => c == '*' || c == '?' || c == '[') then
    return [text]
  let pattern := piecePattern false field
  match ← matchingPaths (pattern.length + 1) [] pattern with
  | [] => return [text]
  | paths => return sortTexts paths

/-! ## Words -/

/-- Fuel for the expansion of a word. -/
def wordFuel (word : ShellWord) : Nat :=
  4 * word.length + 16

def expandWord (capture : Command → Sh RawText) (mode : ExpansionMode) (word : ShellWord) :
    Sh Expanded := do
  return (← expandItems capture (wordFuel word) mode word {}).1

/-- The fields of a word, with patterns replaced by the files that match them. -/
def expandFields (capture : Command → Sh RawText) (word : ShellWord) : Sh (List RawText) := do
  let out ← expandWord capture { splits := true, tilde := true } word
  let mut texts := []
  for field in splitFields (← Sh.fieldSeparators) none out do
    texts := texts ++ (← filesOfField field)
  return texts

def expandText (capture : Command → Sh RawText) (mode : ExpansionMode) (word : ShellWord) :
    Sh RawText := do
  return pieceText (← expandWord capture mode word).pieces.reverse

def expandAssignment (capture : Command → Sh RawText) (word : ShellWord) : Sh RawText :=
  expandText capture { assigns := true } word

def expandPattern (capture : Command → Sh RawText) (word : ShellWord) :
    Sh (List PatternItem) := do
  let out ← expandWord capture { tilde := true, isPattern := true } word
  return patternOf (piecePattern false out.pieces.reverse)

end KeyJoin.Shell
