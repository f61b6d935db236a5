import KeyJoin.BlankText
import KeyJoin.ByteText
import KeyJoin.JsonDocument
import KeyJoin.SimulationFailure

/-!
# Settings read from a document and the environment

The settings file is a JSON document.  A record is an object of named fields,
or the array of its fields in their order with any number of them left out at
the end.  A field that is absent takes its default, a name that no field has is
passed over, and a field given twice or a value of another type is refused.
Variables of the environment then replace the engine's path and arguments.
-/

namespace KeyJoin

def textOfJson? : JsonValue → Option String
  | .string text => some text
  | _ => none

def textsOfJson? : JsonValue → Option (List String)
  | .array items => items.mapM textOfJson?
  | _ => none

/-- The value under `name`, if there is one; two of them are refused. -/
def namedField? (fields : List (String × JsonValue)) (name : String) :
    Option (Option JsonValue) :=
  match fields.filter fun field => field.1 == name with
  | [] => some none
  | [field] => some (some field.2)
  | _ => none

/-- The fields of a record in the order of `names`. -/
def recordFields? (names : List String) : JsonValue → Option (List (Option JsonValue))
  | .object fields => names.mapM (namedField? fields)
  | .array items =>
    if items.length ≤ names.length then
      some (items.map some ++ List.replicate (names.length - items.length) none)
    else none
  | _ => none

def fieldOr {α : Type} (decode : JsonValue → Option α) (default : α) :
    Option JsonValue → Option α
  | none => some default
  | some value => decode value

def engineOfJson? (value : JsonValue) : Option EngineSettings :=
  match recordFields? ["path", "args", "exit_command"] value with
  | some [path, args, exitCommand] => do
    let default : EngineSettings := {}
    let path ← fieldOr textOfJson? default.path path
    let args ← fieldOr textsOfJson? default.args args
    let exitCommand ← fieldOr textOfJson? default.exitCommand exitCommand
    return ⟨path, args, exitCommand⟩
  | _ => none

def columnsOfJson? (value : JsonValue) : Option ColumnNames :=
  match recordFields? ["left_columns", "right_columns"] value with
  | some [left, right] => do
    let default : ColumnNames := {}
    let left ← fieldOr textsOfJson? default.left left
    let right ← fieldOr textsOfJson? default.right right
    return ⟨left, right⟩
  | _ => none

def markersOfJson? (value : JsonValue) : Option LineMarkers :=
  match recordFields? ["discard", "failure"] value with
  | some [discard, failure] => do
    let default : LineMarkers := {}
    let discard ← fieldOr textsOfJson? default.discard discard
    let failure ← fieldOr textsOfJson? default.failure failure
    return ⟨discard, failure⟩
  | _ => none

def settingsOfJson? (value : JsonValue) : Option Settings :=
  match recordFields? ["engine", "schema", "markers", "no_rows_indicator"] value with
  | some [engine, columns, markers, noRowsIndicator] => do
    let default : Settings := {}
    let engine ← fieldOr engineOfJson? default.engine engine
    let columns ← fieldOr columnsOfJson? default.columns columns
    let markers ← fieldOr markersOfJson? default.markers markers
    let noRowsIndicator ← fieldOr textOfJson? default.noRowsIndicator noRowsIndicator
    return ⟨engine, columns, markers, noRowsIndicator⟩
  | _ => none

/-- What reading a file gives. -/
abbrev FileContent := Except SystemFault Bytes

def FileContent.text (content : FileContent) : Except Failure String :=
  match content with
  | .error fault => .error (.system fault)
  | .ok bytes =>
    match decodeStrictly? bytes with
    | some text => .ok text
    | none => .error (.system .notText)

/-- What is said of a document without settings when nothing more is known of it. -/
def plainDocumentFault (_ : String) : String :=
  "malformed document"

/-- The settings of a document; `documentFault` says why a document has none. -/
def parseSettings (document : String) (documentFault : String → String) :
    Except Failure Settings :=
  match (readJson? document.toList).bind settingsOfJson? with
  | some settings => .ok settings
  | none => .error (@Failure.malformedDocument (documentFault document))

def loadSettings (content : FileContent)
    (documentFault : String → String := plainDocumentFault) : Except Failure Settings :=
  match content.text with
  | .error failure => .error failure
  | .ok document =>
    match parseSettings document documentFault with
    | .error failure => .error failure
    | .ok settings =>
      match settings.validate with
      | .error fault => .error (.settings fault)
      | .ok () => .ok settings

/-- The variables of the environment and their values. -/
abbrev Environment := List (String × String)

def Settings.overriddenPath (settings : Settings) (environment : Environment) : String :=
  (environment.lookup "JOINSIM_ENGINE_PATH").getD settings.engine.path

def Settings.overriddenArgs (settings : Settings) (environment : Environment) : List String :=
  match environment.lookup "JOINSIM_ENGINE_ARGS" with
  | some args => (words args.toList).map String.ofList
  | none => settings.engine.args

def Settings.withEnvironment (settings : Settings) (environment : Environment) : Settings :=
  { settings with
    engine :=
      { settings.engine with
        path := settings.overriddenPath environment
        args := settings.overriddenArgs environment } }

def Settings.withEnginePath (settings : Settings) : Option String → Settings
  | some path => { settings with engine := { settings.engine with path := path } }
  | none => settings

/-- The defaults, or the settings of a file that was asked for. -/
def settingsOfFile (file : Option FileContent) (documentFault : String → String) :
    Except Failure Settings :=
  match file with
  | none => .ok {}
  | some content => loadSettings content documentFault

/-- A path given for the engine comes before the environment, which comes before the file. -/
def layeredSettings (file : Option FileContent) (environment : Environment)
    (enginePath : Option String) (documentFault : String → String) : Except Failure Settings :=
  match settingsOfFile file documentFault with
  | .ok settings => .ok ((settings.withEnvironment environment).withEnginePath enginePath)
  | .error failure => .error failure

end KeyJoin
