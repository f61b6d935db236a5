import KeyJoin.Host.FileTree

/-!
# Actions of processes

A process is an action: it has ended, or it asks the system something and goes
on with the answer, or it splits off a child, or it becomes another program.
Actions are pure values; what the questions mean is laid down by the machine
that runs them.  Tasks are actions that are still to be told how to go on, and
compose in sequence.
-/

namespace KeyJoin

/-- How a process ended. -/
inductive Ending
  | exited (status : Nat)
  | signaled (signal : Nat)
  deriving DecidableEq, Repr

/-- The status by which a shell tells an ending. -/
def Ending.status : Ending → Nat
  | exited status => status
  | signaled signal => 128 + signal

/-- What a signal does to a process. -/
inductive Disposition
  | usual
  | ignored
  | caught
  deriving DecidableEq, Repr

/-- How a program is called. -/
structure Invocation where
  name : RawText
  arguments : List RawText
  environment : List (RawText × RawText)

structure OpenMode where
  reads : Bool := false
  writes : Bool := false
  appends : Bool := false
  creates : Bool := false
  truncates : Bool := false
  exclusive : Bool := false
  deriving DecidableEq, Repr

inductive FileKind
  | regular
  | directory
  | link
  | device
  | fifo
  deriving DecidableEq, Repr

structure FileStatus where
  node : Nat
  kind : FileKind
  size : Nat
  permissions : Nat
  modified : Nat
  links : Nat := 1
  deriving DecidableEq, Repr

inductive WaitAnswer
  | ended (process : Nat) (ending : Ending)
  | running
  | noChild
  | interrupted
  deriving DecidableEq, Repr

/-- What a process may ask of the system.  Open files are named by descriptor numbers. -/
inductive Request
  | step
  | clock
  | ownId
  | parentId
  | openFile (path : RawText) (mode : OpenMode)
  | openPipe
  | close (number : Nat)
  | copyTo (number target : Nat)
  | copyAbove (number least : Nat)
  | isOpen (number : Nat)
  | read (number count : Nat)
  | readLine (number : Nat)
  | giveBack (number count : Nat)
  | write (number : Nat) (text : RawText)
  | statusOf (path : RawText) (follows : Bool)
  | statusOfOpen (number : Nat)
  | namesIn (path : RawText)
  | linkTarget (path : RawText)
  | realPath (path : RawText)
  | changeDirectory (path : RawText)
  | directory
  | makeDirectory (path : RawText) (permissions : Nat)
  | makeFifo (path : RawText)
  | removeFile (path : RawText)
  | removeDirectory (path : RawText)
  | rename (old new : RawText)
  | makeHardLink (old new : RawText)
  | makeLink (target path : RawText)
  | setPermissions (path : RawText) (permissions : Nat)
  | setModified (path : RawText) (time : Nat)
  | setSize (path : RawText) (size : Nat)
  | setMask (mask : Nat)
  | wait (process : Option Nat) (blocks : Bool) (deadline : Option Nat)
  | signal (process : Int) (signal : Nat)
  | handle (signal : Nat) (disposition : Disposition)
  | dispositionOf (signal : Nat)
  | takeSignal
  | sleepUntil (time : Nat)

abbrev Fallible (α : Type) := Except SystemFault α

abbrev Request.Answer : Request → Type
  | step | sleepUntil _ | handle .. => Unit
  | clock | ownId | parentId | setMask _ => Nat
  | openFile .. | copyAbove .. => Fallible Nat
  | openPipe => Nat × Nat
  | isOpen _ => Bool
  | read .. | readLine _ | linkTarget _ | realPath _ => Fallible RawText
  | statusOf .. | statusOfOpen _ => Fallible FileStatus
  | namesIn _ => Fallible (List RawText)
  | directory => List RawText
  | wait .. => WaitAnswer
  | dispositionOf _ => Disposition
  | takeSignal => Option Nat
  | close _ | copyTo .. | giveBack .. | write .. | changeDirectory _ | makeDirectory ..
  | makeFifo _ | removeFile _ | removeDirectory _ | rename .. | makeHardLink .. | makeLink ..
  | setPermissions .. | setModified .. | setSize .. | signal .. => Fallible Unit

inductive Action
  | finish (ending : Ending)
  | ask (request : Request) (next : request.Answer → Action)
  | fork (child : Action) (next : Nat → Action)
  | exec (path : RawText) (call : Invocation) (next : SystemFault → Action)

/-- An action that still has to be told how to go on. -/
def Task (α : Type) : Type := (α → Action) → Action

instance : Monad Task where
  pure a := fun next => next a
  bind task f := fun next => task fun a => f a next

end KeyJoin
