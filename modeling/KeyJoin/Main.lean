import KeyJoin.CommandProgram

/-!
# Running the command

The only module that touches the world outside: it gathers what the command can
see, lets `runCommandLine` answer, and writes the answer out.
-/

namespace KeyJoin

/-- The variables of this process. -/
def currentEnvironment : IO Environment := do
  try
    let bytes ← IO.FS.readBinFile "/proc/self/environ"
    let entries := (bytes.data.toList.splitOnP (· == 0)).filterMap decodeStrictly?
    return entries.filterMap fun entry =>
      match entry.toList.dropWhile (· != '=') with
      | [] => none
      | _ :: value => some (String.ofList (entry.toList.takeWhile (· != '=')), String.ofList value)
  catch _ => return []

def readNamed (name : String) : IO (Option (String × Bytes)) := do
  try
    return some (name, (← IO.FS.readBinFile name).data.toList)
  catch _ => return none

/-- The files that a command line may read. -/
def namedFiles (arguments : List String) : List String :=
  match commandRequest arguments with
  | .run options => ".env" :: options.settingsFile.toList ++ options.scriptFile.toList
  | _ => []

def readsStandardInput (arguments : List String) : Bool :=
  match commandRequest arguments with
  | .run options => options.words.isEmpty && options.scriptFile.isNone
  | _ => false

def readStandardInput : IO Bytes := do
  return (← (← IO.getStdin).readToEnd).toUTF8.data.toList

/-- A fresh identity of thirty-two hexadecimal digits in five groups. -/
def freshIdentity : IO String := do
  let digits ← (List.range 32).mapM fun _ => return hexDigitCharacter (← IO.rand 0 15)
  let digits := digits.set 12 '4'
  let groups := [digits.take 8, (digits.drop 8).take 4, (digits.drop 12).take 4,
    (digits.drop 16).take 4, digits.drop 20]
  return String.intercalate "-" (groups.map String.ofList)

def answerArguments (arguments : List String) : IO UInt32 := do
  let files := (← (namedFiles arguments).mapM readNamed).filterMap id
  let standardInput ← if readsStandardInput arguments then readStandardInput else pure []
  let answer := runCommandLine
    { arguments := arguments
      standardInput := standardInput
      files := files
      environment := ← currentEnvironment
      stamp := ⟨← freshIdentity, 0⟩ }
  (← IO.getStdout).putStr answer.out
  (← IO.getStderr).putStr answer.err
  return UInt32.ofNat answer.code

end KeyJoin

def main (arguments : List String) : IO UInt32 :=
  KeyJoin.answerArguments arguments
