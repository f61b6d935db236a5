import KeyJoin.Proofs.ListPieces
import KeyJoin.SettingsDocument
import Mathlib.Data.List.Nodup

/-!
# Fields of a record

What a record of a JSON document gives to a field is said without the reader: an
object gives it under its name, an array at its place.  The reader accepts a
value exactly when it is a record and everything it gives has the right form.
Then a field that is given has the setting written there, and every other field
has its default, for the fields of a record within the record as well.
-/

namespace KeyJoin

variable {α β : Type} {names : List String} {name : String} {record value : JsonValue}

/-- A record with these fields gives one of them this value. -/
inductive RecordGives (names : List String) (name : String) : JsonValue → JsonValue → Prop
  | named {fields : List (String × JsonValue)} {value : JsonValue}
      (hfield : (name, value) ∈ fields) : RecordGives names name (.object fields) value
  | placed {items : List JsonValue} {value : JsonValue} {place : Nat}
      (hname : names[place]? = some name) (hitem : items[place]? = some value) :
      RecordGives names name (.array items) value

/-- An object that gives no field twice, or an array with a field for every item. -/
def IsRecord (names : List String) : JsonValue → Prop
  | .object fields => ∀ name ∈ names, (fields.map Prod.fst).count name ≤ 1
  | .array items => items.length ≤ names.length
  | _ => False

/-- A setting that is given is what the value given means, and one that is not is the default. -/
structure IsSetTo (Gives : JsonValue → Prop) (Means : JsonValue → α → Prop)
    (default setting : α) : Prop where
  given : ∀ value, Gives value → Means value setting
  absent : (∀ value, ¬ Gives value) → setting = default

def engineFields : List String := ["path", "args", "exit_command"]

def columnFields : List String := ["left_columns", "right_columns"]

def markerFields : List String := ["discard", "failure"]

def settingsFields : List String := ["engine", "schema", "markers", "no_rows_indicator"]

def MeansText (value : JsonValue) (text : String) : Prop :=
  value = .string text

def MeansTexts (value : JsonValue) (texts : List String) : Prop :=
  value = .array (texts.map .string)

structure EngineSettings.ReadFrom (settings : EngineSettings) (record : JsonValue) : Prop where
  isRecord : IsRecord engineFields record
  path : IsSetTo (RecordGives engineFields "path" record) MeansText
    ({} : EngineSettings).path settings.path
  args : IsSetTo (RecordGives engineFields "args" record) MeansTexts
    ({} : EngineSettings).args settings.args
  exitCommand : IsSetTo (RecordGives engineFields "exit_command" record) MeansText
    ({} : EngineSettings).exitCommand settings.exitCommand

structure ColumnNames.ReadFrom (columns : ColumnNames) (record : JsonValue) : Prop where
  isRecord : IsRecord columnFields record
  left : IsSetTo (RecordGives columnFields "left_columns" record) MeansTexts
    ({} : ColumnNames).left columns.left
  right : IsSetTo (RecordGives columnFields "right_columns" record) MeansTexts
    ({} : ColumnNames).right columns.right

structure LineMarkers.ReadFrom (markers : LineMarkers) (record : JsonValue) : Prop where
  isRecord : IsRecord markerFields record
  discard : IsSetTo (RecordGives markerFields "discard" record) MeansTexts
    ({} : LineMarkers).discard markers.discard
  failure : IsSetTo (RecordGives markerFields "failure" record) MeansTexts
    ({} : LineMarkers).failure markers.failure

/-- A document gives the settings by records within a record, all of them with fields left out. -/
structure Settings.ReadFrom (settings : Settings) (document : JsonValue) : Prop where
  isRecord : IsRecord settingsFields document
  engine : IsSetTo (RecordGives settingsFields "engine" document)
    (fun record engine => engine.ReadFrom record) ({} : Settings).engine settings.engine
  columns : IsSetTo (RecordGives settingsFields "schema" document)
    (fun record columns => columns.ReadFrom record) ({} : Settings).columns settings.columns
  markers : IsSetTo (RecordGives settingsFields "markers" document)
    (fun record markers => markers.ReadFrom record) ({} : Settings).markers settings.markers
  noRowsIndicator : IsSetTo (RecordGives settingsFields "no_rows_indicator" document) MeansText
    ({} : Settings).noRowsIndicator settings.noRowsIndicator

end KeyJoin
