import KeyJoin.CommaJoinScript
import KeyJoin.EngineInvocation
import KeyJoin.JsonDocument
import KeyJoin.SettingsDocument

/-!
# Routing of statements and scripts

A statement that is a join is simulated, and any other is handed to the engine
or reported, as the options say; on request the comma join is printed and
nothing runs.  A script has its joins replaced by comma joins and then goes to
the engine as a whole.  The answer is the exit code, what is printed, what the
engine wrote to its error stream when it was asked directly, and the inputs the
engine was given in order.
-/

namespace KeyJoin

structure RouteOptions where
  json : Bool := false
  passthrough : Bool := true
  commaJoinOnly : Bool := false
  deriving DecidableEq, Repr

/-- The identity of a run and the time it took, which a printed outcome carries. -/
structure RunStamp where
  identity : String
  milliseconds : Nat
  deriving DecidableEq, Repr

structure Routed where
  code : Nat
  out : String
  err : String
  inputs : List String
  deriving DecidableEq, Repr

def outputDocument : Output → JsonValue
  | .rows lines =>
    .object [("kind", .string "lines"), ("lines", .array (lines.map JsonValue.string))]
  | .noRows => .object [("kind", .string "no_rows")]

def countDocument (count : Nat) : JsonValue :=
  .number (toString count)

def outcomeDocument (stamp : RunStamp) (outcome : Outcome) : JsonValue :=
  .object
    [("run_id", .string stamp.identity),
      ("left_relation", .string outcome.leftRelation),
      ("right_relation", .string outcome.rightRelation),
      ("condition", .string outcome.condition),
      ("projection", .string outcome.projection),
      ("left_rows", countDocument outcome.leftRows),
      ("right_rows", countDocument outcome.rightRows),
      ("matched_rows", countDocument outcome.matchedRows),
      ("output", outputDocument outcome.output),
      ("execution_time_ms", countDocument stamp.milliseconds)]

def failureDocument (failure : Failure) : JsonValue :=
  .object [("error", .string failure.indicator), ("message", .string failure.message)]

def outcomeText (settings : Settings) (options : RouteOptions) (stamp : RunStamp)
    (outcome : Outcome) : String :=
  if options.json then (outcomeDocument stamp outcome).write ++ "\n"
  else outcome.output.render settings.noRowsIndicator ++ "\n"

def failureText (options : RouteOptions) (failure : Failure) : String :=
  if options.json then (failureDocument failure).write ++ "\n" else failure.indicator ++ "\n"

def reportFailure (options : RouteOptions) (failure : Failure) (inputs : List String) : Routed :=
  ⟨1, failureText options failure, "", inputs⟩

/-- Prints what the engine printed and exits as it did, with one if a signal ended it. -/
def forwardOutput (output : EngineOutput) (inputs : List String) : Routed :=
  ⟨output.status?.getD 1, output.out, output.err, inputs⟩

def forwardInput (options : RouteOptions) (engine : Engine) (earlier : List String)
    (input : String) : Routed :=
  match engine earlier input with
  | .ok output => forwardOutput output (earlier ++ [input])
  | .error fault => reportFailure options (.system fault) (earlier ++ [input])

def printCommaJoin (settings : Settings) (options : RouteOptions) (statement : String) : Routed :=
  match extractJoin settings.columns statement with
  | .ok query => ⟨0, query.commaJoin ++ "\n", "", []⟩
  | .error failure => reportFailure options failure []

def runStatement (settings : Settings) (options : RouteOptions) (stamp : RunStamp)
    (engine : Engine) (statement : String) : Routed :=
  let simulation := simulate settings (engineScanner settings.engine engine) statement
  let inputs := simulation.scans.map (scanInput settings.engine)
  match simulation.result with
  | .ok outcome => ⟨0, outcomeText settings options stamp outcome, "", inputs⟩
  | .error (.notAJoin query) =>
    if options.passthrough then
      forwardInput options engine inputs (statementInput settings.engine statement)
    else reportFailure options (.notAJoin query) inputs
  | .error failure => reportFailure options failure inputs

def routeStatement (settings : Settings) (options : RouteOptions) (stamp : RunStamp)
    (engine : Engine) (statement : String) : Routed :=
  let statement := trimText statement
  if statement.isEmpty then reportFailure options (.notAJoin "") []
  else if options.commaJoinOnly then printCommaJoin settings options statement
  else runStatement settings options stamp engine statement

def routeScript (settings : Settings) (options : RouteOptions) (engine : Engine)
    (content : FileContent) : Routed :=
  match content.text with
  | .error failure => reportFailure options failure []
  | .ok text =>
    let script := commaJoinScript settings.columns text
    if options.commaJoinOnly then ⟨0, script, "", []⟩
    else forwardInput options engine [] script

end KeyJoin
