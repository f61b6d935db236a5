import KeyJoin.Tools.Records.KeyTable
import KeyJoin.Tools.Records.Tokens
import KeyJoin.Tools.Records.Values
import KeyJoin.Tools.Tool

/-!
# The state of a running program

A name stands for a value or for a table.  Tables have numbers, so that a
function can be handed one.  The record is split into fields when one of them is
asked for, and put together again when one of them is set.
-/

namespace KeyJoin.Tools.Records

inductive Binding
  | value (value : Value)
  | table (number : Nat)

/-- A file or a command that is printed to.  What has not been written yet stands backwards. -/
structure OutputFile where
  name : RawText
  kind : OutputKind
  number : Nat
  process : Option Nat := none
  out : List RawText := []
  size : Nat := 0

/-- Input that is read in pieces; nothing is left to be read if it has no descriptor. -/
structure RecordInput where
  number : Option Nat
  text : RawText := []

/-- A file or a command that lines are read from. -/
structure OpenInput where
  name : RawText
  isCommand : Bool
  input : RecordInput
  process : Option Nat := none

/-- What a program keeps while it runs.  `operand` is the place of the next argument to be read, and
`splitter` separates the fields of the current record. -/
structure RunState where
  functions : Std.HashMap String Function
  globals : Std.HashMap String Binding := {}
  locals : List (RawText × Binding) := []
  tables : Std.HashMap Nat (KeyTable Value) := {}
  tableCount : Nat := 0
  record : Value := .unset
  fields : Option (Array Value) := none
  splitter : Separator := .blanks
  regexes : Std.HashMap String Regex := {}
  outputs : List OutputFile := []
  inputs : List OpenInput := []
  main : Option RecordInput := none
  operand : Nat := 1
  hasRead : Bool := false
  openRanges : List Nat := []
  seed : Nat := 0
  random : Nat := 0
  status : Nat := 0
  isAborted : Bool := false

/-- What ends a statement before its end. -/
inductive Jump
  | next
  | nextFile
  | leave
  | return (value : Value)
  | break
  | continue

abbrev Run := ExceptT Jump (StateT RunState Tool)

namespace Run

/-! ## Names -/

def binding? (name : RawText) : Run (Option Binding) := do
  let state ← get
  return (state.locals.lookup name).or state.globals[String.ofList name]?

def bind (name : RawText) (binding : Binding) : Run Unit :=
  modify fun state =>
    if (state.locals.lookup name).isSome then
      { state with
        locals := state.locals.map fun entry =>
          if entry.1 == name then (name, binding) else entry }
    else { state with globals := state.globals.insert (String.ofList name) binding }

def valueOf (name : String) : Run Value := do
  match (← get).globals[name]? with
  | some (.value value) => return value
  | _ => return .unset

def conversionFormat : Run RawText := do
  return (← valueOf "CONVFMT").toText (raw "%.6g")

/-- The text of a value. -/
def textOf (value : Value) : Run RawText := do
  match value with
  | .unset => return []
  | .text text | .input text => return text
  | .number _ => return value.toText (← conversionFormat)

def textOfName (name : String) : Run RawText := do
  textOf (← valueOf name)

def setGlobal (name : String) (value : Value) : Run Unit :=
  modify fun state =>
    { state with globals := state.globals.insert name (.value value) }

/-! ## Faults -/

/-- Ends the program with a message. -/
def fail {α : Type} (message : RawText) : Run α := do
  (Tool.writeMessage message : Tool _)
  modify fun state => { state with status := 2, isAborted := true }
  throw .leave

/-- Ends the program with a message that tells where in the input it was. -/
def failHere {α : Type} (message : RawText) : Run α := do
  let file ← textOfName "FILENAME"
  let inFile ← textOfName "FNR"
  let number ← textOfName "NR"
  fail (raw "run time error: " ++ message ++ raw "\n\tFILENAME=\"" ++ file ++ raw "\" FNR=" ++
    inFile ++ raw " NR=" ++ number)

/-! ## Expressions for matching -/

def regexOfText (text : RawText) : Run Regex := do
  match (← get).regexes[String.ofList text]? with
  | some regex => return regex
  | none =>
    match readRecordRegex text with
    | .error message => failHere message
    | .ok regex =>
      modify fun state => { state with regexes := state.regexes.insert (String.ofList text) regex }
      return regex

/-- What a text separates fields by. -/
def separatorOf (text : RawText) : Run Separator := do
  match text with
  | [' '] => return .blanks
  | [] => return .nothing
  | [c] => return .single c
  | text => return .regex (← regexOfText text)

/-! ## Fields -/

/-- Makes a value the current record. -/
def setRecord (value : Value) : Run Unit := do
  let splitter ← separatorOf (← textOfName "FS")
  modify fun state => { state with record := value, fields := none, splitter := splitter }

def fields : Run (Array Value) := do
  match (← get).fields with
  | some fields => return fields
  | none =>
    let state ← get
    let parts := state.splitter.split (← textOf state.record)
    let fields := (parts.map Value.input).toArray
    modify fun state => { state with fields := some fields }
    return fields

/-- Puts the record together from fields. -/
def joinFields (fields : Array Value) : Run Unit := do
  let separator ← textOfName "OFS"
  let texts ← fields.toList.mapM fun field => textOf field
  modify fun state =>
    { state with
      record := .input ((texts.intersperse separator).flatten), fields := some fields }

def fieldAt (number : Nat) : Run Value := do
  if number = 0 then return (← get).record
  else return (← fields)[number - 1]?.getD .unset

/-- The fields with a count of them, the new ones empty. -/
def withCount (fields : Array Value) (count : Nat) : Array Value :=
  fields.take count ++ Array.replicate (count - fields.size) (.input [])

def setField (number : Nat) (value : Value) : Run Unit := do
  if number = 0 then setRecord value
  else
    let fields := withCount (← fields) (max number (← fields).size)
    joinFields (fields.setIfInBounds (number - 1) value)

/-! ## Variables -/

def fieldCount : RawText := raw "NF"

def valueNamed (name : RawText) : Run Value := do
  match ← binding? name with
  | some (.value value) => return value
  | some (.table _) => return .unset
  | none => if name == fieldCount then return .number (Float.ofNat (← fields).size) else return .unset

def setVariable (name : RawText) (value : Value) : Run Unit := do
  if name == fieldCount && ((← get).locals.lookup name).isNone then
    joinFields (withCount (← fields) (cutOff value.toNumber).toNat)
  else bind name (.value value)

/-! ## Tables -/

def newTable (table : KeyTable Value) : Run Nat := do
  let number := (← get).tableCount
  modify fun state =>
    { state with tableCount := number + 1, tables := state.tables.insert number table }
  return number

/-- The table that a name stands for; a name without one gets an empty one. -/
def tableOf (name : RawText) : Run Nat := do
  match ← binding? name with
  | some (.table number) => return number
  | _ =>
    let number ← newTable {}
    bind name (.table number)
    return number

def tableAt (number : Nat) : Run (KeyTable Value) := do
  return (← get).tables[number]?.getD {}

def setTable (number : Nat) (table : KeyTable Value) : Run Unit :=
  modify fun state => { state with tables := state.tables.insert number table }

/-- The value of an element, which is made if there is none. -/
def elementAt (number : Nat) (isNumber : Bool) (key : RawText) : Run Value := do
  let table := (← tableAt number).seek isNumber key
  match table.get? key with
  | some value =>
    setTable number table
    return value
  | none =>
    setTable number (table.insert isNumber key .unset)
    return .unset

def setElement (number : Nat) (isNumber : Bool) (key : RawText) (value : Value) : Run Unit := do
  let table := (← tableAt number).seek isNumber key
  setTable number (table.insert isNumber key value)

/-- Something that can be assigned to. -/
inductive Place
  | variable (name : RawText)
  | element (table : Nat) (isNumber : Bool) (key : RawText)
  | field (number : Nat)

def valueAt : Place → Run Value
  | .variable name => valueNamed name
  | .element table isNumber key => elementAt table isNumber key
  | .field number => fieldAt number

def setAt (place : Place) (value : Value) : Run Unit :=
  match place with
  | .variable name => setVariable name value
  | .element table isNumber key => setElement table isNumber key value
  | .field number => setField number value

end Run

end KeyJoin.Tools.Records
