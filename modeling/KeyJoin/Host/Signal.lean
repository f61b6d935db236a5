import KeyJoin.Host.RawText

/-!
# Signals

Signals have numbers, names and descriptions.  The names stand in the order of
the numbers; the name at number zero is that of an ordinary end.
-/

namespace KeyJoin

def realTimeSignals : List String :=
  "RTMIN" :: (List.range' 1 15).map (fun n => "RTMIN+" ++ toString n) ++
    (List.range' 1 14).reverse.map (fun n => "RTMAX-" ++ toString n) ++ ["RTMAX"]

def signalNames : List String :=
  ["EXIT", "HUP", "INT", "QUIT", "ILL", "TRAP", "ABRT", "BUS", "FPE", "KILL", "USR1", "SEGV",
    "USR2", "PIPE", "ALRM", "TERM", "16", "CHLD", "CONT", "STOP", "TSTP", "TTIN", "TTOU",
    "URG", "XCPU", "XFSZ", "VTALRM", "PROF", "WINCH", "IO", "PWR", "SYS", "32", "33"] ++
    realTimeSignals

/-- How many signals there are, the ordinary end included. -/
def signalCount : Nat := 65

def signalName (signal : Nat) : String :=
  signalNames.getD signal ""

def signalDescription (signal : Nat) : String :=
  match signal with
  | 1 => "Hangup"
  | 2 => "Interrupt"
  | 3 => "Quit"
  | 4 => "Illegal instruction"
  | 5 => "Trace/breakpoint trap"
  | 6 => "Aborted"
  | 7 => "Bus error"
  | 8 => "Floating point exception"
  | 9 => "Killed"
  | 10 => "User defined signal 1"
  | 11 => "Segmentation fault"
  | 12 => "User defined signal 2"
  | 13 => "Broken pipe"
  | 14 => "Alarm clock"
  | 15 => "Terminated"
  | 16 => "Stack fault"
  | 24 => "CPU time limit exceeded"
  | 25 => "File size limit exceeded"
  | 26 => "Virtual timer expired"
  | 27 => "Profiling timer expired"
  | 29 => "I/O possible"
  | 30 => "Power failure"
  | 31 => "Bad system call"
  | n => if 34 ≤ n then "Real-time signal " ++ toString (n - 34) else "Unknown signal " ++ toString n

/-- The signal of a number or a name, counted from `least` on; case does not matter. -/
def signalOf? (least : Nat) (text : RawText) : Option Nat :=
  match natural? text with
  | some n => if n < signalCount then some n else none
  | none =>
    let folded := text.map Char.toUpper
    (signalNames.findIdx? fun name => name.toList == folded).filter fun n => least ≤ n

end KeyJoin
