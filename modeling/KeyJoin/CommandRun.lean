import KeyJoin.CommandOptions
import KeyJoin.EnvironmentFile
import KeyJoin.StatementRouting

/-!
# Runs of the command

The command takes its settings from a file, the environment and its options,
and then routes a script or a statement, which is given by its words or on the
standard input.  It answers with an exit code and what it writes to its two
outputs.  Files and engines belong to the system it runs on, of which nothing
is known here.
-/

namespace KeyJoin

/-- What a run finds around it.  `readFile` gives what a file holds when a text can be read from the
standard input, and what is left of that; `engine` is what is started for the settings, under an
environment; `documentFault` is what is said of a document without settings. -/
structure CommandSystem where
  readFile : Bytes → String → FileContent × Bytes
  engine : Environment → EngineSettings → Engine
  documentFault : String → String

/-- The path is read in the same way whatever stands on the standard input, and nothing is taken
from there. -/
def CommandSystem.LeavesInput (system : CommandSystem) (path : String) : Prop :=
  ∀ input other, system.readFile input path = ((system.readFile other path).1, input)

/-- What a run is given. -/
structure CommandCall where
  arguments : List String
  standardInput : Bytes
  environment : Environment
  stamp : RunStamp

structure CommandAnswer where
  code : Nat
  out : String
  err : String
  deriving DecidableEq, Repr

def usageText : String :=
  "Usage: joinsim [OPTIONS] [QUERY]...\n\n" ++
  "Options:\n" ++
  "  -c, --config <CONFIG>      JSON configuration file (schema, markers, engine)\n" ++
  "  -e, --engine <ENGINE>      Engine binary (overrides config and JOINSIM_ENGINE_PATH)\n" ++
  "      --json                 Print the full outcome as JSON instead of result lines\n" ++
  "      --no-passthrough       Report non-join statements instead of forwarding them\n" ++
  "      --rewrite              Print the equivalent comma-join statement and exit\n" ++
  "      --rewrite-file <PATH>  Run a script with every INNER JOIN line rewritten\n" ++
  "  -h, --help                 Print help\n"

/-- The messages of a failure and of what caused it, the outermost first. -/
def failureChain (failure : Failure) : List String :=
  failure.message :: failure.cause?.toList

/-- A report of what could not be done, with its causes numbered if there are several. -/
def causedReport (context : String) (causes : List String) : String :=
  let causeLines :=
    match causes with
    | [cause] => ["    " ++ cause]
    | _ => (causes.zipIdx).map fun (cause, n) => "    " ++ toString n ++ ": " ++ cause
  "Error: " ++ context ++ "\n\nCaused by:\n" ++ String.intercalate "\n" causeLines ++ "\n"

/-- The environment with the variables of the file for them, unless one of them cannot be set. -/
def environmentOf? (system : CommandSystem) (call : CommandCall) : Option Environment :=
  match FileContent.text (system.readFile call.standardInput ".env").1 with
  | .ok text => call.environment.load? text.toList
  | .error _ => some call.environment

def routeOptionsOf (options : CommandOptions) : RouteOptions :=
  ⟨options.json, !options.noPassthrough, options.commaJoin⟩

/-- The statement of the words, or of the standard input if there are none. -/
def statementOf (options : CommandOptions) (standardInput : Bytes) : Option String :=
  if options.words.isEmpty then decodeStrictly? standardInput
  else some (String.intercalate " " options.words)

def answerRouted (routed : Routed) : CommandAnswer :=
  ⟨routed.code, routed.out, routed.err⟩

/-- Runs with the settings that were found; `standardInput` is what is left to be read. -/
def runSettings (system : CommandSystem) (call : CommandCall) (environment : Environment)
    (standardInput : Bytes) (options : CommandOptions) (settings : Settings) : CommandAnswer :=
  let engine := system.engine environment settings.engine
  match options.scriptFile with
  | some script =>
    answerRouted
      (routeScript settings (routeOptionsOf options) engine
        (system.readFile standardInput script).1)
  | none =>
    match statementOf options standardInput with
    | some statement =>
      answerRouted
        (routeStatement settings (routeOptionsOf options) call.stamp engine statement)
    | none =>
      ⟨1, "", causedReport "Failed to read query from stdin" [SystemFault.message .notText]⟩

/-- What reading the settings file gives, if the options name one, and what is then left to be read
on the standard input. -/
def CommandCall.settingsFile (call : CommandCall) (system : CommandSystem)
    (options : CommandOptions) : Option FileContent × Bytes :=
  match options.settingsFile with
  | none => (none, call.standardInput)
  | some path =>
    let (content, rest) := system.readFile call.standardInput path
    (some content, rest)

def runOptions (system : CommandSystem) (call : CommandCall) (environment : Environment)
    (options : CommandOptions) : CommandAnswer :=
  let (settingsFile, standardInput) := call.settingsFile system options
  match layeredSettings settingsFile environment options.engine system.documentFault with
  | .error failure =>
    ⟨1, "",
      causedReport ("Failed to load config from " ++ options.settingsFile.getD "")
        (failureChain failure)⟩
  | .ok settings => runSettings system call environment standardInput options settings

def runCommand (system : CommandSystem) (call : CommandCall) : CommandAnswer :=
  match environmentOf? system call with
  | none => ⟨101, "", ""⟩
  | some environment =>
    match commandRequest call.arguments with
    | .help => ⟨0, usageText, ""⟩
    | .misuse => ⟨2, "", usageText⟩
    | .run options => runOptions system call environment options

end KeyJoin
