import KeyJoin.Host.Action

/-!
# The machine

The machine holds the tree of files, what is open, and the processes.  It runs
the first process whose question can be answered until that process has to wait
or its turn is over, and then turns to the next one.  When all processes wait,
the clock moves on to the first that sleeps until a certain time.  A write to a
pipe that nobody can read from any more ends the writer by a signal, unless it
ignores that signal.
-/

namespace KeyJoin

/-- What a pipe holds: the text to be read next and, backwards, the pieces written after it.  What
is written to a collecting pipe is read by nobody but the one who started the machine. -/
structure Pipe where
  front : RawText := []
  back : List RawText := []
  size : Nat := 0
  collects : Bool := false
  hadWriter : Bool := true

/-- What a descriptor stands for.  Descriptors that were copied share it. -/
inductive OpenFile
  | pipeEnd (pipe : Nat) (writes : Bool)
  | node (id : Nat) (offset : Nat) (mode : OpenMode)

structure Descriptor where
  number : Nat
  file : Nat
  isPrivate : Bool := false

structure Process where
  id : Nat
  parent : Nat
  action : Action
  descriptors : List Descriptor
  directory : List RawText
  mask : Nat := 0o022
  dispositions : List (Nat × Disposition) := []
  pending : List Nat := []
  doomed : Option Nat := none

structure Ended where
  id : Nat
  parent : Nat
  ending : Ending

structure Machine where
  tree : FileTree
  files : Array OpenFile := #[]
  pipes : Array Pipe := #[]
  processes : List Process := []
  ended : List Ended := []
  clock : Nat := startTime
  steps : Nat := 0
  nextId : Nat := 1000

def signalPipe : Nat := 13

/-- Signals that do nothing to a process that has not said otherwise. -/
def isHarmlessSignal (signal : Nat) : Bool :=
  [0, 17, 18, 19, 20, 21, 22, 23, 28].contains signal

/-- Signals that cannot be caught or ignored. -/
def isForcedSignal (signal : Nat) : Bool :=
  signal == 9 || signal == 19

namespace Pipe

def capacity : Nat := 65536

def put (pipe : Pipe) (text : RawText) : Pipe :=
  { pipe with back := text :: pipe.back, size := pipe.size + text.length }

/-- All that can be read, in front. -/
def settle (pipe : Pipe) : Pipe :=
  if pipe.back.isEmpty then pipe
  else { pipe with front := pipe.front ++ pipe.back.reverse.flatten, back := [] }

def take (pipe : Pipe) (count : Nat) : RawText × Pipe :=
  let pipe := if pipe.front.isEmpty then pipe.settle else pipe
  let (taken, rest) := pipe.front.splitAt count
  (taken, { pipe with front := rest, size := pipe.size - taken.length })

def content (pipe : Pipe) : RawText :=
  pipe.settle.front

end Pipe

namespace Process

def descriptor? (p : Process) (number : Nat) : Option Nat :=
  (p.descriptors.find? fun d => d.number == number).map (·.file)

def setDescriptor (p : Process) (number file : Nat) (isPrivate : Bool) : Process :=
  { p with
    descriptors :=
      ⟨number, file, isPrivate⟩ :: p.descriptors.filter fun d => d.number != number }

def closeDescriptor (p : Process) (number : Nat) : Process :=
  { p with descriptors := p.descriptors.filter fun d => d.number != number }

/-- The first number from `least` on that is not open, found within `fuel` tries. -/
def freeNumber (p : Process) : Nat → Nat → Nat
  | 0, least => least
  | fuel + 1, least => if (p.descriptor? least).isSome then p.freeNumber fuel (least + 1) else least

def firstFree (p : Process) (least : Nat) : Nat :=
  p.freeNumber (p.descriptors.length + 1) least

def dispositionOf (p : Process) (signal : Nat) : Disposition :=
  (p.dispositions.lookup signal).getD .usual

/-- What becomes of a process that a signal is sent to. -/
def receive (p : Process) (signal : Nat) : Process :=
  if isForcedSignal signal then if signal == 9 then { p with doomed := some signal } else p
  else
    match p.dispositionOf signal with
    | .ignored => p
    | .caught =>
      if p.pending.contains signal then p else { p with pending := p.pending ++ [signal] }
    | .usual => if isHarmlessSignal signal then p else { p with doomed := some signal }

def wakeTime? (p : Process) : Option Nat :=
  match p.action with
  | .ask (.sleepUntil time) _ => some time
  | .ask (.wait _ _ deadline) _ => deadline
  | _ => none

end Process

namespace Machine

/-- The new machine and the process it serves, with the answer. -/
abbrev Reply (α : Type) := Option (α × Process × Machine)

def reply {α : Type} (m : Machine) (p : Process) (answer : α) : Reply α :=
  some (answer, p, m)

def openAs (m : Machine) (file : OpenFile) : Machine × Nat :=
  ({ m with files := m.files.push file }, m.files.size)

def fileOf? (m : Machine) (p : Process) (number : Nat) : Option (Nat × OpenFile) :=
  match p.descriptor? number with
  | none => none
  | some id => (m.files[id]?).map (id, ·)

def isEndOf (m : Machine) (pipe : Nat) (writes : Bool) (p : Process) : Bool :=
  p.descriptors.any fun d =>
    match m.files[d.file]? with
    | some (.pipeEnd other end_) => other == pipe && end_ == writes
    | _ => false

/-- Whether a process still has the given end of a pipe. -/
def hasEnd (m : Machine) (p : Process) (pipe : Nat) (writes : Bool) : Bool :=
  m.isEndOf pipe writes p || m.processes.any (m.isEndOf pipe writes)

def pipe (m : Machine) (id : Nat) : Pipe :=
  m.pipes.getD id {}

def setPipe (m : Machine) (id : Nat) (pipe : Pipe) : Machine :=
  { m with pipes := m.pipes.setIfInBounds id pipe }

def setOffset (m : Machine) (file id offset : Nat) (mode : OpenMode) : Machine :=
  { m with files := m.files.setIfInBounds file (.node id offset mode) }

def setFileText (m : Machine) (id : Nat) (text : RawText) : Machine :=
  { m with
    tree := m.tree.modifyNode id fun node =>
      { node with content := .file text, modified := m.clock } }

/-! ## Opening -/

/-- Opens the node that was found. -/
def openNode (m : Machine) (p : Process) (id : Nat) (mode : OpenMode) : Reply (Fallible Nat) :=
  let number := p.firstFree 0
  let finish := fun (m : Machine) (file : OpenFile) =>
    let (m, index) := m.openAs file
    reply m (p.setDescriptor number index false) (.ok number)
  match (m.tree.node id).content with
  | .directory _ => if mode.writes then reply m p (.error .isADirectory) else finish m (.node id 0 mode)
  | .file _ => finish (if mode.truncates then m.setFileText id [] else m) (.node id 0 mode)
  | .device .terminal => reply m p (.error .noSuchDevice)
  | .device (.ownDescriptor other) =>
    match m.fileOf? p other with
    | none => reply m p (.error .notFound)
    | some (_, .node id _ old) =>
      match (m.tree.node id).content with
      | .file _ => finish (if mode.truncates then m.setFileText id [] else m) (.node id 0 mode)
      | _ => finish m (.node id 0 { old with appends := mode.appends })
    | some (_, .pipeEnd pipe _) => finish m (.pipeEnd pipe mode.writes)
  | .fifo pipe =>
    if mode.writes && !mode.reads then
      if m.hasEnd p pipe false then
        finish (m.setPipe pipe { m.pipe pipe with hadWriter := true }) (.pipeEnd pipe true)
      else none
    else finish m (.pipeEnd pipe false)
  | _ => finish m (.node id 0 mode)

def openFile (m : Machine) (p : Process) (path : RawText) (mode : OpenMode) : Reply (Fallible Nat) :=
  match m.tree.place p.directory true path with
  | .error fault => reply m p (.error fault)
  | .ok place =>
    match place.node? with
    | some id =>
      if mode.creates && mode.exclusive then reply m p (.error .alreadyExists)
      else m.openNode p id mode
    | none =>
      if !mode.creates then reply m p (.error .notFound)
      else if place.asFolder then reply m p (.error .isADirectory)
      else
        let permissions := 0o666 &&& (0o777 ^^^ (p.mask &&& 0o777))
        let (tree, id) := m.tree.addNode place.folder place.name ⟨.file [], permissions, m.clock⟩
        openNode { m with tree := tree } p id mode

/-! ## Reading and writing -/

def zeroBytes (count : Nat) : RawText :=
  List.replicate (min count 65536) '\x00'

def readFrom (m : Machine) (p : Process) (number count : Nat) : Reply (Fallible RawText) :=
  match m.fileOf? p number with
  | none => reply m p (.error .badDescriptor)
  | some (_, .pipeEnd _ true) => reply m p (.error .badDescriptor)
  | some (_, .pipeEnd id false) =>
    let pipe := m.pipe id
    if pipe.size = 0 then
      if pipe.hadWriter && !m.hasEnd p id true then reply m p (.ok []) else none
    else
      let (text, pipe) := pipe.take count
      reply (m.setPipe id pipe) p (.ok text)
  | some (file, .node id offset mode) =>
    if !mode.reads then reply m p (.error .badDescriptor)
    else
      match (m.tree.node id).content with
      | .file text =>
        let taken := (text.drop offset).take count
        reply (m.setOffset file id (offset + taken.length) mode) p (.ok taken)
      | .directory _ => reply m p (.error .isADirectory)
      | .device .zero | .device .full | .device .random => reply m p (.ok (zeroBytes count))
      | _ => reply m p (.ok [])

/-- The text up to the first line feed and with it, or all of the text. -/
def firstLine (text : RawText) : RawText :=
  match splitAtFirst? (· == '\n') text with
  | some (line, _) => line ++ ['\n']
  | none => text

def readLineFrom (m : Machine) (p : Process) (number : Nat) : Reply (Fallible RawText) :=
  match m.fileOf? p number with
  | some (_, .pipeEnd id false) =>
    let pipe := (m.pipe id).settle
    let line := firstLine pipe.front
    if line.getLast? == some '\n' || !(m.hasEnd p id true) && pipe.hadWriter then
      reply (m.setPipe id { pipe with front := pipe.front.drop line.length
                                      size := pipe.size - line.length }) p (.ok line)
    else none
  | some (file, .node id offset mode) =>
    match (m.tree.node id).content, mode.reads with
    | .file text, true =>
      let line := firstLine (text.drop offset)
      reply (m.setOffset file id (offset + line.length) mode) p (.ok line)
    | _, _ => m.readFrom p number 1
  | _ => m.readFrom p number 1

/-- Puts back the last `count` bytes read from a file; what was read from a pipe is gone. -/
def giveBack (m : Machine) (p : Process) (number count : Nat) : Reply (Fallible Unit) :=
  match m.fileOf? p number with
  | some (file, .node id offset mode) =>
    reply (m.setOffset file id (offset - count) mode) p (.ok ())
  | some _ => reply m p (.error .illegalSeek)
  | none => reply m p (.error .badDescriptor)

def breakPipe (m : Machine) (p : Process) : Reply (Fallible Unit) :=
  reply m (p.receive signalPipe) (.error .brokenPipe)

def overwrite (text : RawText) (offset : Nat) (piece : RawText) : RawText :=
  if offset = text.length then text ++ piece
  else
    text.take offset ++ List.replicate (offset - text.length) '\x00' ++ piece ++
      text.drop (offset + piece.length)

def writeTo (m : Machine) (p : Process) (number : Nat) (text : RawText) : Reply (Fallible Unit) :=
  match m.fileOf? p number with
  | none => reply m p (.error .badDescriptor)
  | some (_, .pipeEnd _ false) => reply m p (.error .badDescriptor)
  | some (_, .pipeEnd id true) =>
    let pipe := m.pipe id
    if text.isEmpty then reply m p (.ok ())
    else if pipe.collects then reply (m.setPipe id (pipe.put text)) p (.ok ())
    else if !m.hasEnd p id false then m.breakPipe p
    else if Pipe.capacity ≤ pipe.size then none
    else reply (m.setPipe id (pipe.put text)) p (.ok ())
  | some (file, .node id offset mode) =>
    if !mode.writes then reply m p (.error .badDescriptor)
    else
      match (m.tree.node id).content with
      | .file old =>
        let start := if mode.appends then old.length else offset
        let m := m.setFileText id (overwrite old start text)
        reply (m.setOffset file id (start + text.length) mode) p (.ok ())
      | .device .full => reply m p (if text.isEmpty then .ok () else .error .noSpace)
      | .directory _ => reply m p (.error .isADirectory)
      | _ => reply m p (.ok ())

/-! ## Status and names -/

def nodeStatus (m : Machine) (id : Nat) : FileStatus :=
  let node := m.tree.node id
  let (kind, size) :=
    match node.content with
    | .file text => (FileKind.regular, text.length)
    | .program name => (.regular, 20000 + 16 * name.length)
    | .directory _ => (.directory, 4096)
    | .link target => (.link, target.length)
    | .device _ => (.device, 0)
    | .fifo _ => (.fifo, 0)
  ⟨id, kind, size, node.permissions, node.modified, m.tree.linkCount id⟩

def statusOf (m : Machine) (p : Process) (path : RawText) (follows : Bool) : Fallible FileStatus :=
  match m.tree.locate p.directory follows path with
  | .error fault => .error fault
  | .ok (id, _) =>
    match (m.tree.node id).content with
    | .device (.ownDescriptor number) =>
      match m.fileOf? p number with
      | none => .error .notFound
      | some (_, .node id _ _) => .ok (m.nodeStatus id)
      | some (_, .pipeEnd _ _) => .ok ⟨id, .fifo, 0, 0o600, m.clock, 1⟩
    | _ => .ok (m.nodeStatus id)

def statusOfOpen (m : Machine) (p : Process) (number : Nat) : Fallible FileStatus :=
  match m.fileOf? p number with
  | none => .error .badDescriptor
  | some (_, .node id _ _) => .ok (m.nodeStatus id)
  | some (_, .pipeEnd pipe _) => .ok ⟨m.tree.nodes.size + pipe, .fifo, 0, 0o600, m.clock, 1⟩

def namesIn (m : Machine) (p : Process) (path : RawText) : Fallible (List RawText) :=
  match m.tree.locate p.directory true path with
  | .error fault => .error fault
  | .ok (id, _) =>
    match (m.tree.node id).content with
    | .directory entries => .ok (sortTexts (entries.map (·.1)))
    | _ => .error .notADirectory

def linkTarget (m : Machine) (p : Process) (path : RawText) : Fallible RawText :=
  match m.tree.locate p.directory false path with
  | .error fault => .error fault
  | .ok (id, _) =>
    match (m.tree.node id).content with
    | .link target => .ok target
    | _ => .error .invalidArgument

def partsPath (parts : List RawText) : RawText :=
  '/' :: ['/'].intercalate parts

def realPath (m : Machine) (p : Process) (path : RawText) : Fallible RawText :=
  (m.tree.locate p.directory true path).map fun (_, place) => partsPath place.parts

def changeDirectory (m : Machine) (p : Process) (path : RawText) : Fallible (List RawText) :=
  match m.tree.locate p.directory true path with
  | .error fault => .error fault
  | .ok (id, place) =>
    if (m.tree.node id).isDirectory then .ok place.parts else .error .notADirectory

/-! ## Changing the tree -/

/-- Adds a node at a path that names nothing yet. -/
def create (m : Machine) (p : Process) (path : RawText) (mayBeFolder : Bool) (node : Node) :
    Fallible FileTree :=
  match m.tree.place p.directory false path with
  | .error fault => .error fault
  | .ok place =>
    if place.node?.isSome then .error .alreadyExists
    else if place.asFolder && !mayBeFolder then .error .notFound
    else .ok (m.tree.addNode place.folder place.name { node with modified := m.clock }).1

def removeFile (m : Machine) (p : Process) (path : RawText) : Fallible FileTree :=
  match m.tree.locate p.directory false path with
  | .error fault => .error fault
  | .ok (id, place) =>
    if (m.tree.node id).isDirectory then .error .isADirectory
    else .ok (m.tree.removeEntry place.folder place.name)

def removeDirectory (m : Machine) (p : Process) (path : RawText) : Fallible FileTree :=
  match m.tree.locate p.directory false path with
  | .error fault => .error fault
  | .ok (id, place) =>
    if !(m.tree.node id).isDirectory then .error .notADirectory
    else if (path.reverse.takeWhile (· != '/')) == ['.'] then .error .invalidArgument
    else if !(m.tree.entries id).isEmpty || id == 0 then .error .notEmpty
    else .ok (m.tree.removeEntry place.folder place.name)

def rename (m : Machine) (p : Process) (old new : RawText) : Fallible FileTree :=
  match m.tree.locate p.directory false old, m.tree.place p.directory false new with
  | .error fault, _ => .error fault
  | _, .error fault => .error fault
  | .ok (id, source), .ok target =>
    let isDirectory := (m.tree.node id).isDirectory
    let replaced := target.node?.map m.tree.node
    if target.node? == some id then .ok m.tree
    else if isDirectory && source.parts.isPrefixOf target.parts then .error .invalidArgument
    else if target.asFolder && !isDirectory then .error .notADirectory
    else
      match replaced with
      | some node =>
        if node.isDirectory && !isDirectory then .error .isADirectory
        else if !node.isDirectory && isDirectory then .error .notADirectory
        else if isDirectory && !(m.tree.entries (target.node?.getD 0)).isEmpty then
          .error .notEmpty
        else .ok ((m.tree.removeEntry source.folder source.name).addEntry target.folder target.name id)
      | none => .ok ((m.tree.removeEntry source.folder source.name).addEntry target.folder target.name id)

def makeHardLink (m : Machine) (p : Process) (old new : RawText) : Fallible FileTree :=
  match m.tree.locate p.directory false old, m.tree.place p.directory false new with
  | .error fault, _ => .error fault
  | _, .error fault => .error fault
  | .ok (id, _), .ok target =>
    if (m.tree.node id).isDirectory then .error .notPermitted
    else if target.node?.isSome then .error .alreadyExists
    else .ok (m.tree.addEntry target.folder target.name id)

def modifyAt (m : Machine) (p : Process) (path : RawText) (f : Node → Node) : Fallible FileTree :=
  (m.tree.locate p.directory true path).map fun (id, _) => m.tree.modifyNode id f

def withSize (size : Nat) (node : Node) : Node :=
  match node.content with
  | .file text =>
    { node with content := .file (text.take size ++ List.replicate (size - text.length) '\x00') }
  | _ => node

def replyTree (m : Machine) (p : Process) (result : Fallible FileTree) : Reply (Fallible Unit) :=
  match result with
  | .ok tree => reply { m with tree := tree } p (.ok ())
  | .error fault => reply m p (.error fault)

def makeFifo (m : Machine) (p : Process) (path : RawText) : Reply (Fallible Unit) :=
  let pipe := m.pipes.size
  let m := { m with pipes := m.pipes.push { hadWriter := false } }
  m.replyTree p (m.create p path false ⟨.fifo pipe, 0o644, m.clock⟩)

/-! ## Processes -/

def matchesWait (p : Process) (which : Option Nat) (id parent : Nat) : Bool :=
  parent == p.id && (which.isNone || which == some id)

def waitFor (m : Machine) (p : Process) (which : Option Nat) (blocks : Bool)
    (deadline : Option Nat) : Reply WaitAnswer :=
  match m.ended.find? fun e => matchesWait p which e.id e.parent with
  | some e =>
    reply { m with ended := m.ended.filter fun other => other.id != e.id } p
      (.ended e.id e.ending)
  | none =>
    if !m.processes.any fun other => matchesWait p which other.id other.parent then
      reply m p .noChild
    else if !blocks || (deadline.map fun time => decide (time ≤ m.clock)).getD false then
      reply m p .running
    else if !p.pending.isEmpty then reply m p .interrupted
    else none

/-- Sends a signal to one process, or with zero for its number to all that the sender started
with itself. -/
def sendSignal (m : Machine) (p : Process) (target : Int) (signal : Nat) : Reply (Fallible Unit) :=
  let known := fun (id : Nat) => id == p.id || m.processes.any (fun q => q.id == id) ||
    m.ended.any (fun e => e.id == id)
  if target ≤ 0 then
    reply { m with processes := m.processes.map (·.receive signal) } (p.receive signal) (.ok ())
  else
    let id := target.toNat
    if !known id then reply m p (.error .noSuchProcess)
    else if id == p.id then reply m (p.receive signal) (.ok ())
    else
      let processes := m.processes.map fun q => if q.id == id then q.receive signal else q
      reply { m with processes := processes } p (.ok ())

def handle (p : Process) (signal : Nat) (disposition : Disposition) : Process :=
  { p with
    dispositions := (signal, disposition) :: p.dispositions.filter fun entry => entry.1 != signal
    pending := if disposition == .caught then p.pending else p.pending.filter (· != signal) }

def copyTo (m : Machine) (p : Process) (number target : Nat) : Reply (Fallible Unit) :=
  match p.descriptor? number with
  | some file => reply m (p.setDescriptor target file false) (.ok ())
  | none => reply m p (.error .badDescriptor)

def copyAbove (m : Machine) (p : Process) (number least : Nat) : Reply (Fallible Nat) :=
  match p.descriptor? number with
  | some file =>
    let target := p.firstFree least
    reply m (p.setDescriptor target file true) (.ok target)
  | none => reply m p (.error .badDescriptor)

def openPipe (m : Machine) (p : Process) : Reply (Nat × Nat) :=
  let pipe := m.pipes.size
  let m := { m with pipes := m.pipes.push {} }
  let (m, reader) := m.openAs (.pipeEnd pipe false)
  let (m, writer) := m.openAs (.pipeEnd pipe true)
  let first := p.firstFree 0
  let p := p.setDescriptor first reader false
  let second := p.firstFree 0
  reply m (p.setDescriptor second writer false) (first, second)

/-- Answers a question of a process, or tells that it has to wait. -/
def answer (m : Machine) (p : Process) (request : Request) : Reply request.Answer :=
  match request with
  | .step => reply m p ()
  | .clock => reply m p m.clock
  | .ownId => reply m p p.id
  | .parentId => reply m p p.parent
  | .openFile path mode => m.openFile p path mode
  | .openPipe => m.openPipe p
  | .close number =>
    reply m (p.closeDescriptor number)
      (if (p.descriptor? number).isSome then .ok () else .error .badDescriptor)
  | .copyTo number target => m.copyTo p number target
  | .copyAbove number least => m.copyAbove p number least
  | .isOpen number => reply m p (p.descriptor? number).isSome
  | .read number count => m.readFrom p number count
  | .readLine number => m.readLineFrom p number
  | .giveBack number count => m.giveBack p number count
  | .write number text => m.writeTo p number text
  | .statusOf path follows => reply m p (m.statusOf p path follows)
  | .statusOfOpen number => reply m p (m.statusOfOpen p number)
  | .namesIn path => reply m p (m.namesIn p path)
  | .linkTarget path => reply m p (m.linkTarget p path)
  | .realPath path => reply m p (m.realPath p path)
  | .changeDirectory path =>
    match m.changeDirectory p path with
    | .ok parts => reply m { p with directory := parts } (.ok ())
    | .error fault => reply m p (.error fault)
  | .directory => reply m p p.directory
  | .makeDirectory path permissions =>
    m.replyTree p (m.create p path true
      ⟨.directory [], permissions &&& (0o777 ^^^ (p.mask &&& 0o777)), m.clock⟩)
  | .makeFifo path => m.makeFifo p path
  | .removeFile path => m.replyTree p (m.removeFile p path)
  | .removeDirectory path => m.replyTree p (m.removeDirectory p path)
  | .rename old new => m.replyTree p (m.rename p old new)
  | .makeHardLink old new => m.replyTree p (m.makeHardLink p old new)
  | .makeLink target path => m.replyTree p (m.create p path false ⟨.link target, 0o777, m.clock⟩)
  | .setPermissions path permissions =>
    m.replyTree p (m.modifyAt p path fun node => { node with permissions := permissions })
  | .setModified path time =>
    m.replyTree p (m.modifyAt p path fun node => { node with modified := time })
  | .setSize path size => m.replyTree p (m.modifyAt p path (withSize size))
  | .setMask mask => reply m { p with mask := mask } p.mask
  | .wait which blocks deadline => m.waitFor p which blocks deadline
  | .signal target number => m.sendSignal p target number
  | .handle number disposition => reply m (handle p number disposition) ()
  | .dispositionOf number => reply m p (p.dispositionOf number)
  | .takeSignal => reply m { p with pending := p.pending.drop 1 } p.pending.head?
  | .sleepUntil time =>
    if time ≤ m.clock || !p.pending.isEmpty then reply m p () else none

/-! ## Programs -/

/-- The action of a program of the host, given how it is called. -/
abbrev Loader := String → Invocation → Action

/-- The program and the arguments that the first line of a script names. -/
def interpreterOf? (text : RawText) : Option (RawText × List RawText) :=
  match text with
  | '#' :: '!' :: rest =>
    let line := trimEndOf isBlankByte ((lineBody rest).dropWhile isBlankByte)
    let path := line.takeWhile fun c => !isBlankByte c
    let argument := (line.drop path.length).dropWhile isBlankByte
    if path.isEmpty then none else some (path, if argument.isEmpty then [] else [argument])
  | _ => none

/-- The action of the program at a path; scripts may name their own program `links` times. -/
def programAt (m : Machine) (load : Loader) (p : Process) :
    Nat → RawText → Invocation → Fallible Action
  | links, path, call =>
    match m.tree.locate p.directory true path with
    | .error fault => .error fault
    | .ok (id, _) =>
      let node := m.tree.node id
      if !node.isExecutable then .error .permissionDenied
      else
        match node.content with
        | .program name => .ok (load name call)
        | .file text =>
          match interpreterOf? text, links with
          | some (interpreter, first), links + 1 =>
            m.programAt load p links interpreter
              { call with name := interpreter, arguments := first ++ path :: call.arguments }
          | some _, 0 => .error .tooManyLinks
          | none, _ => .error .notExecutable
        | _ => .error .permissionDenied

/-- What a program that is started keeps of the process it replaces. -/
def Process.renewed (p : Process) (action : Action) : Process :=
  { p with
    action := action
    descriptors := p.descriptors.filter fun d => !d.isPrivate
    dispositions := p.dispositions.filter fun entry => entry.2 == .ignored
    pending := [] }

/-! ## Turns -/

/-- Ends a process; its children go to the first process of all, which forgets the ended. -/
def endProcess (m : Machine) (p : Process) (ending : Ending) : Machine :=
  let orphaned := fun (parent : Nat) => if parent == p.id then 1 else parent
  let ended := (m.ended.filter fun e => e.parent != p.id) ++
    (if p.parent == 1 then [] else [⟨p.id, p.parent, ending⟩])
  { m with
    processes := m.processes.map fun q => { q with parent := orphaned q.parent }
    ended := ended }

/-- Runs a process until it waits, ends or has had its turn, and tells whether it did anything. -/
def runTurn (load : Loader) : Nat → Machine → Process → Bool → Machine × Bool
  | 0, m, p, moved => ({ m with processes := m.processes ++ [p] }, moved)
  | fuel + 1, m, p, moved =>
    match p.doomed with
    | some signal => (m.endProcess p (.signaled signal), true)
    | none =>
      match p.action with
      | .finish ending => (m.endProcess p ending, true)
      | .fork child next =>
        let id := m.nextId
        let q : Process :=
          { p with id := id, parent := p.id, action := child, pending := [] }
        let m :=
          { m with processes := m.processes ++ [q], nextId := id + 1, steps := m.steps + 1 }
        runTurn load fuel m { p with action := next id } true
      | .exec path call next =>
        match m.programAt load p 4 path call with
        | .ok action => runTurn load fuel m (Process.renewed p action) true
        | .error fault => runTurn load fuel m { p with action := next fault } true
      | .ask request next =>
        match m.answer p request with
        | none => ({ m with processes := m.processes ++ [p] }, moved)
        | some (answer, p, m) =>
          let m := { m with clock := m.clock + 1, steps := m.steps + 1 }
          runTurn load fuel m { p with action := next answer } true

/-- The number of steps a turn may have. -/
def turnLength : Nat := 2000

/-- The number of steps after which the machine is stopped. -/
def stepLimit : Nat := 6000000

def nextWake? (m : Machine) : Option Nat :=
  (m.processes.filterMap Process.wakeTime?).min?

/-- Runs the processes in turns until `isDone`, or until none can go on.  `idle` counts the
processes that have had to wait since the last one did something. -/
def run (load : Loader) (isDone : Machine → Bool) : Nat → Nat → Machine → Machine
  | 0, _, m => m
  | fuel + 1, idle, m =>
    if isDone m || stepLimit ≤ m.steps then m
    else
      match m.processes with
      | [] => m
      | p :: rest =>
        let (m, moved) := runTurn load turnLength { m with processes := rest } p false
        if moved then run load isDone fuel 0 m
        else if idle + 1 < m.processes.length then run load isDone fuel (idle + 1) m
        else
          match m.nextWake? with
          | some time =>
            if m.clock < time then run load isDone fuel 0 { m with clock := time } else m
          | none => m

/-! ## Starting a program -/

/-- What a program that was run to its end has left behind. -/
structure Finished where
  out : RawText
  err : RawText
  ending : Option Ending
  tree : FileTree

/-- Whether nothing more can come from a program that was started as the first process: it has
ended, and nobody holds the pipes of its outputs. -/
def isFinished (first : Nat) (m : Machine) : Bool :=
  !(m.processes.any fun p => p.id == first || m.isEndOf 1 true p || m.isEndOf 2 true p)

/-- The first process has the input on descriptor zero and collecting pipes on the next two. -/
def starting (tree : FileTree) (directory : List RawText) (input : RawText) : Machine × Process :=
  let inputPipe : Pipe := { front := input, size := input.length }
  let collecting : Pipe := { collects := true }
  let descriptors : List Descriptor := [⟨0, 0, false⟩, ⟨1, 1, false⟩, ⟨2, 2, false⟩]
  ({ tree := tree
     files := #[.pipeEnd 0 false, .pipeEnd 1 true, .pipeEnd 2 true]
     pipes := #[inputPipe, collecting, collecting]
     nextId := 1001 },
    { id := 1000, parent := 999, action := .finish (.exited 0)
      descriptors := descriptors, directory := directory })

/-- Runs the program at a path to its end. -/
def runProgram (load : Loader) (tree : FileTree) (directory : List RawText) (path : RawText)
    (call : Invocation) (input : RawText) : Fallible Finished :=
  let (m, p) := starting tree directory input
  match m.programAt load p 4 path call with
  | .error fault => .error fault
  | .ok action =>
    let m := run load (isFinished p.id) stepLimit 0 { m with processes := [{ p with action := action }] }
    .ok
      { out := (m.pipe 1).content
        err := (m.pipe 2).content
        ending := (m.ended.find? fun e => e.id == p.id).map (·.ending)
        tree := m.tree }

end Machine

end KeyJoin
