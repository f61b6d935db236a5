import KeyJoin.Tools.Records.Reading
import KeyJoin.Tools.Records.Streams

/-!
# Running programs over records

The rules that begin a program are carried out first, then each record goes
through all others, and those that finish the program come last.  A program that
only begins reads no input.
-/

namespace KeyJoin.Tools.Records

namespace Run

/-- Lets other processes run; called once for each turn of a loop and each call. -/
def pause : Run Unit := do
  (Tool.ask .step : Tool _)

/-! ## Functions of texts and numbers -/

/-- A number between zero and one that follows from the one before. -/
def nextRandom : Run Float := do
  let state ← get
  let next := (state.random * 6364136223846793005 + 1442695040888963407) % integerModulus
  set { state with random := next }
  return Float.ofNat (next / 2048) / 9007199254740992.0

/-- Sets the seed of the random numbers, and gives the one before. -/
def reseed (seed : Nat) : Run Value := do
  let state ← get
  set { state with seed := seed, random := seed }
  return .number (Float.ofNat state.seed)

/-- What a function makes of its values alone. -/
def plainCall (name : String) (values : List Value) : Run Value := do
  let number := fun (n : Int) => Value.number (Float.ofInt n)
  let values ←
    if name == "length" && values.isEmpty then pure [← fieldAt 0] else pure values
  match name, values with
  | "length", [value] => return number (← textOf value).length
  | "substr", text :: first :: rest =>
    return .text (partOf (← textOf text) first.toNumber (rest.head?.map Value.toNumber))
  | "index", [text, part] => return number (placeOf (← textOf part) (← textOf text))
  | "tolower", [text] => return .text ((← textOf text).map Char.toLower)
  | "toupper", [text] => return .text ((← textOf text).map Char.toUpper)
  | "int", [value] =>
    let x := value.toNumber
    return .number (if x.isNaN || x.isInf then x else if x < 0 then x.ceil else x.floor)
  | "sqrt", [value] => return .number value.toNumber.sqrt
  | "exp", [value] => return .number value.toNumber.exp
  | "log", [value] => return .number value.toNumber.log
  | "sin", [value] => return .number value.toNumber.sin
  | "cos", [value] => return .number value.toNumber.cos
  | "atan2", [y, x] => return .number (Float.atan2 y.toNumber x.toNumber)
  | "rand", _ => return .number (← nextRandom)
  | "srand", [] => reseed (← (Tool.ask .clock : Tool _))
  | "srand", [value] => reseed (cutOff value.toNumber).natAbs
  | "systime", _ => return number ((← (Tool.ask .clock : Tool _)) / secondTicks)
  | "system", [command] => return number (← callSystem (← textOf command))
  | "close", [name] => return number (← closeNamed (← textOf name))
  | "fflush", [] => return number (← flushNamed [])
  | "fflush", [name] => return number (← flushNamed (← textOf name))
  | _, _ => return .unset

/-- Fills a format; a fault ends the program once what came before it is printed by `emit`. -/
def formatted (name : String) (emit : RawText → Run Unit) (format : RawText)
    (values : List Value) : Run RawText := do
  let conversion ← conversionFormat
  match fillFormat (Value.toText conversion) format values with
  | (text, none) => return text
  | (text, some fault) =>
    emit text
    let call := raw name ++ raw "(\"" ++ format ++ raw "\")"
    match fault with
    | .missingArgument => failHere (raw "not enough arguments passed to " ++ call)
    | .improperConversion number =>
      failHere (raw "improper conversion(number " ++ naturalText number ++ raw ") in " ++ call)

/-- The key of an element: its text, and whether it was a number. -/
def keyOf (values : List Value) : Run (Bool × RawText) := do
  match values with
  | [value] =>
    return (value.isNumber, ← textOf value)
  | values =>
    let texts ← values.mapM fun value => textOf value
    return (false, (texts.intersperse (← textOfName "SUBSEP")).flatten)

/-- Fills a table with the parts of a text, and gives their number. -/
def splitInto (table : Nat) (text : RawText) (separator : Separator) : Run Value := do
  let parts := separator.split text
  setTable table (KeyTable.ofSequence (parts.map Value.input))
  return .number (Float.ofNat parts.length)

/-- Notes where a match was found, and gives its place. -/
def noteMatch (found : Option RegexMatch) : Run Value := do
  let (place, length) : Int × Int :=
    match found with
    | some found => (found.first + 1, found.last - found.first)
    | none => (0, -1)
  setGlobal "RSTART" (.number (Float.ofInt place))
  setGlobal "RLENGTH" (.number (Float.ofInt length))
  return .number (Float.ofInt place)

/-- Goes on after the body of a loop; tells whether the loop does so, too. -/
def turn (body : Run Unit) : Run Bool := do
  pause
  tryCatch (do
    body
    return true) fun
    | .continue => return true
    | .break => return false
    | jump => throw jump

/-! ## Expressions and statements -/

mutual

def evaluate : Nat → Expr → Run Value
  | 0, _ => throw .leave
  | fuel + 1, expression => do
    match expression with
    | .number value => return .number value
    | .text text => return .text text
    | .regex text =>
      let regex ← regexOfText text
      return ofBool (regex.occursIn (← textOf (← fieldAt 0)))
    | .variable name => valueNamed name
    | .element .. | .field _ => valueAt (← placeOfTarget fuel expression)
    | .assign operation target value =>
      let place ← placeOfTarget fuel target
      match operation with
      | none =>
        let value ← evaluate fuel value
        setAt place value
        return value
      | some operation =>
        let value ← evaluate fuel value
        let result := Value.number (calculate operation (← valueAt place).toNumber value.toNumber)
        setAt place result
        return result
    | .conditional condition whenTrue whenFalse =>
      if (← evaluate fuel condition).holds then evaluate fuel whenTrue else evaluate fuel whenFalse
    | .both first second =>
      if (← evaluate fuel first).holds then return ofBool (← evaluate fuel second).holds
      else return ofBool false
    | .either first second =>
      if (← evaluate fuel first).holds then return ofBool true
      else return ofBool (← evaluate fuel second).holds
    | .not body => return ofBool !(← evaluate fuel body).holds
    | .negate body => return .number (-(← evaluate fuel body).toNumber)
    | .plain body => return .number (← evaluate fuel body).toNumber
    | .calculate operation first second =>
      let first ← evaluate fuel first
      let second ← evaluate fuel second
      return .number (calculate operation first.toNumber second.toNumber)
    | .join first second =>
      let first ← textOf (← evaluate fuel first)
      let second ← textOf (← evaluate fuel second)
      return .text (first ++ second)
    | .compare comparison first second =>
      let first ← evaluate fuel first
      let second ← evaluate fuel second
      return ofBool (comparison.holds (compareValues (← conversionFormat) first second))
    | .matching isNegated subject pattern =>
      let subject ← textOf (← evaluate fuel subject)
      let regex ← regexOf fuel pattern
      return ofBool (regex.occursIn subject != isNegated)
    | .member keys table =>
      let (isNumber, key) ← keyOf (← evaluateAll fuel keys)
      let number ← tableOf table
      let sought := (← tableAt number).seek isNumber key
      setTable number sought
      return ofBool (sought.contains key)
    | .step isBefore isUp target =>
      let place ← placeOfTarget fuel target
      let before := (← valueAt place).toNumber
      let after := if isUp then before + 1 else before - 1
      setAt place (.number after)
      return .number (if isBefore then after else before)
    | .call name arguments => callFunction fuel name arguments
    | .builtin name arguments => callBuiltin fuel (String.ofList name) arguments
    | .readLine source target => readLine fuel source target
    | .list parts =>
      let (_, text) ← keyOf (← evaluateAll fuel parts)
      return .text text

def evaluateAll : Nat → List Expr → Run (List Value)
  | 0, _ => throw .leave
  | _, [] => return []
  | fuel + 1, part :: parts => do
    let value ← evaluate fuel part
    return value :: (← evaluateAll fuel parts)

/-- What an expression means as the target of an assignment. -/
def placeOfTarget : Nat → Expr → Run Place
  | 0, _ => throw .leave
  | fuel + 1, target => do
    match target with
    | .variable name => return .variable name
    | .element name keys =>
      let (isNumber, key) ← keyOf (← evaluateAll fuel keys)
      return .element (← tableOf name) isNumber key
    | .field index =>
      let n := cutOff (← evaluate fuel index).toNumber
      if n < 0 then failHere (raw "negative field index $" ++ integerText n)
      return .field n.toNat
    | _ => return .field 0

/-- The expression for matching that is written between slashes, or as a text. -/
def regexOf : Nat → Expr → Run Regex
  | 0, _ => throw .leave
  | fuel + 1, pattern => do
    match pattern with
    | .regex text => regexOfText text
    | pattern => regexOfText (← textOf (← evaluate fuel pattern))

/-- The bindings of parameters for the arguments of a call.  A name without a value may become a
table within the function. -/
def bindArguments : Nat → List RawText → List Expr → Run (List (RawText × Binding))
  | 0, _, _ => throw .leave
  | _, [], _ => return []
  | fuel + 1, name :: names, [] => do
    return (name, .value .unset) :: (← bindArguments fuel names [])
  | fuel + 1, name :: names, argument :: arguments => do
    let binding ←
      match argument with
      | .variable given =>
        match ← binding? given with
        | some (.table number) => pure (Binding.table number)
        | some (.value .unset) | none => do
          if given == fieldCount then pure (.value (← valueNamed given))
          else pure (.table (← tableOf given))
        | some (.value value) => pure (.value value)
      | argument => do pure (.value (← evaluate fuel argument))
    return (name, binding) :: (← bindArguments fuel names arguments)

def callFunction : Nat → RawText → List Expr → Run Value
  | 0, _, _ => throw .leave
  | fuel + 1, name, arguments => do
    pause
    match (← get).functions[String.ofList name]? with
    | none => return .unset
    | some function =>
      let bindings ← bindArguments fuel function.parameters arguments
      let outer := (← get).locals
      modify fun state => { state with locals := bindings }
      let result ← tryCatch (do
          execute fuel function.body
          return Value.unset) fun
        | .return value => return value
        | jump => throw jump
      modify fun state => { state with locals := outer }
      return result

def callBuiltin : Nat → String → List Expr → Run Value
  | 0, _, _ => throw .leave
  | fuel + 1, name, arguments => do
    match name, arguments with
    | "length", [.variable table] =>
      match ← binding? table with
      | some (.table number) => return .number (Float.ofNat (← tableAt number).size)
      | _ => plainCall name [← valueNamed table]
    | "split", text :: .variable table :: rest =>
      let text ← textOf (← evaluate fuel text)
      let separator ←
        match rest with
        | [] => separatorOf (← textOfName "FS")
        | .regex pattern :: _ => do pure (.regex (← regexOfText pattern))
        | separator :: _ => do separatorOf (← textOf (← evaluate fuel separator))
      splitInto (← tableOf table) text separator
    | "match", [text, pattern] =>
      let text ← textOf (← evaluate fuel text)
      noteMatch ((← regexOf fuel pattern).findFrom? (.ofText text) 0)
    | "sub", pattern :: replacement :: target => replaceIn fuel false pattern replacement target
    | "gsub", pattern :: replacement :: target => replaceIn fuel true pattern replacement target
    | "sprintf", format :: values =>
      let format ← textOf (← evaluate fuel format)
      let values ← evaluateAll fuel values
      return .text (← formatted "sprintf" (fun _ => return) format values)
    | name, arguments => plainCall name (← evaluateAll fuel arguments)

/-- Replaces matches within a target, the current record if none is given; gives their number. -/
def replaceIn : Nat → Bool → Expr → Expr → List Expr → Run Value
  | 0, _, _, _, _ => throw .leave
  | fuel + 1, isGlobal, pattern, replacement, target => do
    let regex ← regexOf fuel pattern
    let replacement ← textOf (← evaluate fuel replacement)
    let target := target.headD (.field (.number 0))
    let isPlace := ProgramReader.isTarget target
    let place ← if isPlace then placeOfTarget fuel target else pure (.field 0)
    let text ← textOf (← if isPlace then valueAt place else evaluate fuel target)
    let (text, count) := replaceMatches regex replacement isGlobal text
    if isPlace && count != 0 then setAt place (.text text)
    return .number (Float.ofNat count)

/-- Takes a line from a source into a target, or makes it the current record. -/
def readLine : Nat → LineSource → Option Expr → Run Value
  | 0, _, _ => throw .leave
  | fuel + 1, source, target => do
    let record ←
      match source with
      | .input => do pure (some (← nextRecord streamFuel))
      | .file name => do recordFrom false (← textOf (← evaluate fuel name))
      | .command text => do recordFrom true (← textOf (← evaluate fuel text))
    match record with
    | none => return .number (-1)
    | some none => return .number 0
    | some (some text) =>
      match target with
      | none => setRecord (.input text)
      | some target => setAt (← placeOfTarget fuel target) (.input text)
      return .number 1

def execute : Nat → Stmt → Run Unit
  | 0, _ => throw .leave
  | fuel + 1, statement => do
    match statement with
    | .expression body => let _ ← evaluate fuel body
    | .print parts target =>
      let values ← if parts.isEmpty then pure [← fieldAt 0] else evaluateAll fuel parts
      let format := (← valueOf "OFMT").toText (raw "%.6g")
      let texts := values.map (Value.toText format)
      let text := (texts.intersperse (← textOfName "OFS")).flatten ++ (← textOfName "ORS")
      emit fuel target text
    | .format parts target =>
      match parts with
      | [] => return
      | format :: values =>
        let format ← textOf (← evaluate fuel format)
        let values ← evaluateAll fuel values
        emit fuel target (← formatted "printf" (emit fuel target) format values)
    | .ifElse condition whenTrue whenFalse =>
      if (← evaluate fuel condition).holds then execute fuel whenTrue
      else
        match whenFalse with
        | some whenFalse => execute fuel whenFalse
        | none => return
    | .whileLoop condition body => repeatWhile fuel (some condition) none body
    | .doLoop body condition =>
      if ← turn (execute fuel body) then repeatWhile fuel (some condition) none body
    | .forLoop first condition step body =>
      match first with
      | some first => execute fuel first
      | none => pure ()
      repeatWhile fuel condition step body
    | .forKeys target table body =>
      let number ← tableOf table
      let (keys, visited) := (← tableAt number).visit
      setTable number visited
      forEachKey fuel target body keys
    | .block body => executeAll fuel body
    | .delete table keys =>
      let number ← tableOf table
      match keys with
      | [] => setTable number {}
      | keys =>
        let (isNumber, key) ← keyOf (← evaluateAll fuel keys)
        setTable number (((← tableAt number).seek isNumber key).erase key)
    | .next => throw .next
    | .nextFile => throw .nextFile
    | .leave status =>
      match status with
      | none => pure ()
      | some status =>
        let status := cutOff (← evaluate fuel status).toNumber
        modify fun state => { state with status := (status % 256).toNat }
      throw .leave
    | .return value =>
      match value with
      | none => throw (.return .unset)
      | some value => throw (.return (← evaluate fuel value))
    | .break => throw .break
    | .continue => throw .continue

def executeAll : Nat → List Stmt → Run Unit
  | 0, _ => throw .leave
  | _, [] => return
  | fuel + 1, statement :: statements => do
    execute fuel statement
    executeAll fuel statements

/-- Repeats a body, and a step after it, as long as a condition holds. -/
def repeatWhile : Nat → Option Expr → Option Stmt → Stmt → Run Unit
  | 0, _, _, _ => throw .leave
  | fuel + 1, condition, step, body => do
    let goesOn ←
      match condition with
      | none => pure true
      | some condition => do pure (← evaluate fuel condition).holds
    if goesOn then
      if ← turn (execute fuel body) then
        match step with
        | some step => execute fuel step
        | none => pure ()
        repeatWhile fuel condition step body

def forEachKey : Nat → RawText → Stmt → List RawText → Run Unit
  | 0, _, _, _ => throw .leave
  | _, _, _, [] => return
  | fuel + 1, target, body, key :: keys => do
    setVariable target (.text key)
    if ← turn (execute fuel body) then forEachKey fuel target body keys

/-- Prints a text to the target of a print statement. -/
def emit : Nat → Option (OutputKind × Expr) → RawText → Run Unit
  | 0, _, _ => throw .leave
  | fuel + 1, target, text => do
    match target with
    | none => (Tool.put text : Tool _)
    | some (kind, name) => printTo kind (← textOf (← evaluate fuel name)) text

end

/-! ## Rules -/

def evaluationFuel : Nat := streamFuel

/-- Whether a rule is carried out for the current record. -/
def applies (place : Nat) (pattern : Pattern) : Run Bool := do
  match pattern with
  | .begin | .finish => return false
  | .always => return true
  | .condition condition => return (← evaluate evaluationFuel condition).holds
  | .range first last =>
    let isOpen := (← get).openRanges.contains place
    if isOpen || (← evaluate evaluationFuel first).holds then
      let ends := (← evaluate evaluationFuel last).holds
      modify fun state =>
        let others := state.openRanges.filter (· != place)
        { state with openRanges := if ends then others else place :: others }
      return true
    else return false

def printRecord : Stmt :=
  .print [] none

def applyRules : List (Rule × Nat) → Run Unit
  | [] => return
  | (rule, place) :: rules => do
    if ← applies place rule.pattern then
      execute evaluationFuel (rule.action.getD printRecord)
    applyRules rules

/-- Carries out the rules for each record. -/
def forEachRecord (rules : List (Rule × Nat)) : Nat → Run Unit
  | 0 => return
  | fuel + 1 => do
    pause
    match ← nextRecord streamFuel with
    | none => return
    | some record =>
      setRecord (.input record)
      tryCatch (applyRules rules) fun
        | .next => return
        | .nextFile => skipFile
        | jump => throw jump
      forEachRecord rules fuel

/-- Carries out something up to its end, or up to where it leaves the program; tells whether it
came to its end. -/
def untilLeft (body : Run Unit) : Run Bool :=
  tryCatch (do
    body
    return true) fun _ => return false

def actionsOf (rules : List Rule) (isWanted : Pattern → Bool) : List Stmt :=
  rules.filterMap fun rule => if isWanted rule.pattern then rule.action else none

def isBegin : Pattern → Bool
  | .begin => true
  | _ => false

def isFinish : Pattern → Bool
  | .finish => true
  | _ => false

def runProgram (program : Program) : Run Unit := do
  let begins := actionsOf program.rules isBegin
  let finishes := actionsOf program.rules isFinish
  let others := program.rules.filter fun rule => !isBegin rule.pattern && !isFinish rule.pattern
  let goesOn ← untilLeft (executeAll evaluationFuel begins)
  if goesOn && !(others.isEmpty && finishes.isEmpty) then
    let _ ← untilLeft (forEachRecord others.zipIdx streamFuel)
  if !(← get).isAborted then
    let _ ← untilLeft (executeAll evaluationFuel finishes)
  closeOutputs

end Run

/-! ## The tool -/

/-- The options of a call: the separator of fields, assignments, and files with the program. -/
structure RecordOptions where
  separator : Option RawText := none
  assignments : List RawText := []
  files : List RawText := []

/-- Reads the options up to the first operand. -/
def readRecordOptions : List RawText → RecordOptions → Tool (RecordOptions × List RawText)
  | [], options => return (options, [])
  | argument :: arguments, options => do
    match argument with
    | ['-', '-'] => return (options, arguments)
    | '-' :: letter :: value =>
      if !(['F', 'v', 'f', 'W'].contains letter) then
        Tool.writeMessage (raw "not an option: " ++ argument)
        Tool.exit 2
      match value, arguments with
      | [], [] =>
        Tool.writeMessage (raw "option -" ++ [letter] ++ raw " lacks argument")
        Tool.exit 2
      | [], value :: arguments => readRecordOptions arguments (withOption options letter value)
      | value, arguments => readRecordOptions arguments (withOption options letter value)
    | _ => return (options, argument :: arguments)
where
  withOption (options : RecordOptions) (letter : Char) (value : RawText) : RecordOptions :=
    if letter == 'F' then { options with separator := some value }
    else if letter == 'v' then { options with assignments := options.assignments ++ [value] }
    else if letter == 'f' then { options with files := options.files ++ [value] }
    else options

/-- The text of a program, from files or from the first operand, and the operands left. -/
def programText (options : RecordOptions) (operands : List RawText) :
    Tool (RawText × List RawText) := do
  if options.files.isEmpty then
    match operands with
    | [] =>
      Tool.sayPlainly (raw "Usage: mawk [Options] [Program] [file ...]\n")
      Tool.exit 0
    | text :: operands => return (text, operands)
  else
    let mut texts := []
    for name in options.files do
      match ← Tool.readFile name with
      | .ok text => texts := texts ++ [text]
      | .error fault =>
        Tool.writeMessage
          (raw "cannot open \"" ++ name ++ raw "\" (" ++ raw fault.description ++ raw ")")
        Tool.exit 2
    return ((texts.intersperse ['\n']).flatten, operands)

def firstGlobals : List (String × Value) :=
  [("CONVFMT", .text (raw "%.6g")), ("OFMT", .text (raw "%.6g")), ("FS", .text [' ']),
    ("OFS", .text [' ']), ("ORS", .text ['\n']), ("RS", .text ['\n']), ("SUBSEP", .text ['\x1c']),
    ("NR", .number 0), ("FNR", .number 0), ("RSTART", .number 0), ("RLENGTH", .number (-1)),
    ("FILENAME", .text [])]

/-- Sets all variables that a program finds when it begins. -/
def Run.setUp (options : RecordOptions) (arguments : List RawText) : Run Unit := do
  for (name, value) in firstGlobals do
    setGlobal name value
  let environment := (← (getThe ToolState : Tool _)).environment
  let values := environment.foldl
    (fun (table : KeyTable Value) (name, value) => table.insert false name (.input value)) {}
  let number ← newTable values
  bind (raw "ENVIRON") (.table number)
  let table := arguments.zipIdx.foldl
    (fun (table : KeyTable Value) (argument, i) =>
      table.insert true (naturalText i) (.input argument)) {}
  let number ← newTable table
  bind (raw "ARGV") (.table number)
  setGlobal "ARGC" (.number (Float.ofNat arguments.length))
  match options.separator with
  | some text => setGlobal "FS" (.text (withoutEscapes (text.length + 1) text))
  | none => pure ()
  for argument in options.assignments do
    match assignment? argument with
    | some (name, text) => assignText name text
    | none => fail (raw "improper assignment: -v " ++ argument)

def runRecords (arguments : List RawText) : Tool Unit := do
  let (options, operands) ← readRecordOptions arguments {}
  let (text, operands) ← programText options operands
  match readProgram text with
  | .error messages =>
    for message in messages do
      Tool.writeMessage message
    Tool.exit 2
  | .ok program =>
    let functions := program.functions.foldl
      (fun (found : Std.HashMap String Function) function =>
        found.insert (String.ofList function.name) function) {}
    let name := (← get).name
    let (_, state) ← ((do
        Run.setUp options (name :: operands)
        Run.runProgram program : Run Unit).run).run { functions := functions }
    Tool.exit state.status

end KeyJoin.Tools.Records
