/-!
# Faults of the system

Why the system refuses a request.  Every cause has a description, and those
that the system itself numbers are reported with their number.  A cause that is
not told apart here is kept as the system describes it.
-/

namespace KeyJoin

inductive SystemFault
  | notPermitted
  | notFound
  | noSuchProcess
  | noSuchDevice
  | notExecutable
  | badDescriptor
  | noChild
  | permissionDenied
  | alreadyExists
  | crossDevice
  | notADirectory
  | isADirectory
  | invalidArgument
  | noSpace
  | illegalSeek
  | brokenPipe
  | nameTooLong
  | notEmpty
  | tooManyLinks
  | nulByte
  | notText
  | other (number? : Option Nat) (description : String)
  deriving DecidableEq, Repr

def SystemFault.description : SystemFault → String
  | notPermitted => "Operation not permitted"
  | notFound => "No such file or directory"
  | noSuchProcess => "No such process"
  | noSuchDevice => "No such device or address"
  | notExecutable => "Exec format error"
  | badDescriptor => "Bad file descriptor"
  | noChild => "No child processes"
  | permissionDenied => "Permission denied"
  | alreadyExists => "File exists"
  | crossDevice => "Invalid cross-device link"
  | notADirectory => "Not a directory"
  | isADirectory => "Is a directory"
  | invalidArgument => "Invalid argument"
  | noSpace => "No space left on device"
  | illegalSeek => "Illegal seek"
  | brokenPipe => "Broken pipe"
  | nameTooLong => "File name too long"
  | notEmpty => "Directory not empty"
  | tooManyLinks => "Too many levels of symbolic links"
  | nulByte => "nul byte found in provided data"
  | notText => "stream did not contain valid UTF-8"
  | other _ description => description

/-- The number of a fault that the system itself reports. -/
def SystemFault.number? : SystemFault → Option Nat
  | notPermitted => some 1
  | notFound => some 2
  | noSuchProcess => some 3
  | noSuchDevice => some 6
  | notExecutable => some 8
  | badDescriptor => some 9
  | noChild => some 10
  | permissionDenied => some 13
  | alreadyExists => some 17
  | crossDevice => some 18
  | notADirectory => some 20
  | isADirectory => some 21
  | invalidArgument => some 22
  | noSpace => some 28
  | illegalSeek => some 29
  | brokenPipe => some 32
  | nameTooLong => some 36
  | notEmpty => some 39
  | tooManyLinks => some 40
  | nulByte | notText => none
  | other number? _ => number?

def SystemFault.message (fault : SystemFault) : String :=
  match fault.number? with
  | some number => fault.description ++ " (os error " ++ toString number ++ ")"
  | none => fault.description

end KeyJoin
