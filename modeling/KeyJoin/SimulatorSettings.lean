/-!
# Settings of the simulator

The settings say how the engine is reached, which columns either side of a
join has, and which texts classify the lines that the engine prints.  Column
zero of either side is the join key, so a side without columns is refused; the
text printed for an empty join must not look like a printed row.
-/

namespace KeyJoin

/-- How the engine is started, and the statement that ends its session. -/
structure EngineSettings where
  path : String := "./build_debug/bin/observer"
  args : List String := ["-P", "cli"]
  exitCommand : String := "exit;"
  deriving DecidableEq, Repr, Inhabited

structure ColumnNames where
  left : List String := ["id", "name"]
  right : List String := ["id", "age"]
  deriving DecidableEq, Repr, Inhabited

/-- A line with a discard marker is no row; a line with a failure marker that is no row either
fails the scan. -/
structure LineMarkers where
  discard : List String := ["SQL_SYNTAX", "Command history saved"]
  failure : List String := ["Failed to parse sql", "FAILURE"]
  deriving DecidableEq, Repr, Inhabited

structure Settings where
  engine : EngineSettings := {}
  columns : ColumnNames := {}
  markers : LineMarkers := {}
  noRowsIndicator : String := "NO_ROWS"
  deriving DecidableEq, Repr, Inhabited

inductive SettingsFault
  | missingKeyColumn
  | separatorInIndicator
  | described (reason : String)
  deriving DecidableEq, Repr

def SettingsFault.message : SettingsFault → String
  | missingKeyColumn => "schema must declare at least the key column for both relations"
  | separatorInIndicator => "no_rows_indicator must not contain the column separator '|'"
  | described reason => reason

def Settings.validate (settings : Settings) : Except SettingsFault Unit :=
  if settings.columns.left.isEmpty || settings.columns.right.isEmpty then
    .error .missingKeyColumn
  else if settings.noRowsIndicator.toList.contains '|' then
    .error .separatorInIndicator
  else .ok ()

end KeyJoin
