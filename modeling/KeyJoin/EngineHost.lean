import KeyJoin.EngineInvocation
import KeyJoin.Host.Machine
import KeyJoin.Host.StandardTree
import KeyJoin.Shell.Execution
import KeyJoin.Tools.Catalog

/-!
# The host that engines run on

An engine is a program of the host: it is named by a path, is started in a
directory with arguments and an environment, and is given a text on its input.
What it changes in the tree of files is there when it is started again.  What it
writes is decoded leniently.
-/

namespace KeyJoin

structure Host where
  tree : FileTree
  directory : List RawText
  environment : List (RawText × RawText)

/-- The names under which the shell is found. -/
def shellNames : List String := ["dash", "bash"]

/-- The action of a program of the host. -/
def loadProgram (name : String) (call : Invocation) : Action :=
  if shellNames.contains name then Shell.shellProgram call
  else
    match Tools.catalog.lookup name with
    | some tool => Tool.action tool call
    | none => .finish (.exited 127)

def hostTree : FileTree :=
  standardTree (shellNames ++ Tools.catalog.map (·.1))

/-- Where programs are looked for and where the user is at home, unless something else is set. -/
def usualEnvironment : List (String × String) :=
  [("PATH", "/usr/local/sbin:/usr/local/bin:/usr/sbin:/usr/bin:/sbin:/bin"), ("HOME", "/root")]

def rawEnvironment (environment : List (String × String)) : List (RawText × RawText) :=
  environment.map fun (name, value) => (rawOfText name, rawOfText value)

/-- The host as it stands, with programs started in the root. -/
def plainHost : Host :=
  { tree := hostTree, directory := [], environment := rawEnvironment usualEnvironment }

def workFolder : List RawText := [raw "tmp", raw "work"]

/-- A host with files in a directory of their own, where programs are started. -/
def hostOf (files : List (String × Bytes)) (environment : List (String × String)) : Host :=
  let environment := environment ++ usualEnvironment.filter fun entry =>
    (environment.lookup entry.1).isNone
  { tree :=
      files.foldl
        (fun tree file => tree.putFile workFolder (rawOfText file.1) (rawOfBytes file.2))
        (hostTree.makeFolder 0 workFolder).1
    directory := workFolder
    environment := rawEnvironment environment }

namespace Host

/-- A machine with one process in the directory of the host. -/
def started (host : Host) : Machine × Process :=
  Machine.starting host.tree host.directory []

/-- The first program of a name in the folders, or why none can be started. -/
def searchProgram (host : Host) (call : Invocation) :
    SystemFault → List RawText → Fallible RawText
  | fault, [] => .error fault
  | fault, folder :: folders =>
    let path := if folder.isEmpty then call.name else folder ++ '/' :: call.name
    let (machine, process) := host.started
    match machine.programAt loadProgram process 4 path call with
    | .ok _ => .ok path
    | .error .permissionDenied => searchProgram host call .permissionDenied folders
    | .error .notFound | .error .notADirectory => searchProgram host call fault folders
    | .error fault => .error fault

/-- The path of the program that a path or a name without a slash means. -/
def programPath (host : Host) (call : Invocation) : Fallible RawText :=
  if call.name.contains '/' || call.name.isEmpty then .ok call.name
  else if FileTree.longestName < call.name.length then .error .nameTooLong
  else
    let path := (host.environment.lookup (raw "PATH")).getD (raw "/bin:/usr/bin")
    host.searchProgram call .notFound (splitAtAll ':' path)

/-- Runs a program to its end. -/
def run (host : Host) (call : Invocation) (input : RawText) : Fallible Machine.Finished :=
  match host.programPath call with
  | .error fault => .error fault
  | .ok path => Machine.runProgram loadProgram host.tree host.directory path call input

/-- What reading a file gives when `input` can be read from the standard input, and what is left of
that. -/
def readFile (host : Host) (input : Bytes) (path : String) : Fallible Bytes × Bytes :=
  match host.tree.locate host.directory true (rawOfText path) with
  | .error fault => (.error fault, input)
  | .ok (id, _) =>
    match (host.tree.node id).content with
    | .file text => (.ok (bytesOfRaw text), input)
    | .directory _ => (.error .isADirectory, input)
    | .device (.ownDescriptor 0) => (.ok input, [])
    | .device (.ownDescriptor _) => (.error .noSuchDevice, input)
    | .device .terminal => (.error .noSuchDevice, input)
    | _ => (.ok [], input)

end Host

def outputOfFinished (finished : Machine.Finished) : EngineOutput :=
  { out := decodeLeniently (bytesOfRaw finished.out)
    err := decodeLeniently (bytesOfRaw finished.err)
    status? :=
      match finished.ending with
      | some (.exited status) => some status
      | _ => none }

def engineCall (host : Host) (settings : EngineSettings) : Invocation :=
  ⟨rawOfText settings.path, settings.args.map rawOfText, host.environment⟩

/-- The host as an earlier run of the engine leaves it. -/
def Host.after (host : Host) (settings : EngineSettings) (input : String) : Host :=
  match host.run (engineCall host settings) (rawOfText input) with
  | .ok finished => { host with tree := finished.tree }
  | .error _ => host

/-- The engine that the host runs for the settings. -/
def hostEngine (host : Host) (settings : EngineSettings) : Engine := fun earlier input =>
  if settings.path.toList.contains '\x00' ||
      settings.args.any fun argument => argument.toList.contains '\x00' then
    .error .nulByte
  else
    let host := earlier.foldl (fun host input => host.after settings input) host
    (host.run (engineCall host settings) (rawOfText input)).map outputOfFinished

end KeyJoin
