import KeyJoin.Tools.Options
import KeyJoin.Tools.Stream

/-!
# Copying in blocks

A tool that reads its input in blocks of one size and writes blocks of another
one, and tells how many of them were full.  If one size is asked for and bytes
keep their places, each block that was read is written at once; otherwise text
is gathered until a block of output is full.
-/

namespace KeyJoin.Tools

open Tool

/-! ## Operands -/

/-- The number of bytes that a unit behind a number stands for. -/
def blockUnit? : RawText → Option Nat
  | [] | ['c'] | ['B'] => some 1
  | ['w'] => some 2
  | ['b'] => some 512
  | c :: rest =>
    let power? := (['K', 'M', 'G', 'T', 'P', 'E'].idxOf? (if c == 'k' then 'K' else c)).map (· + 1)
    match rest with
    | [] | ['i', 'B'] => power?.map fun power => twoTo (10 * power)
    | ['B'] => power?.map fun power => tenTo (3 * power)
    | _ => none

/-- Numbers with units, with crosses between those that are multiplied. -/
def blockNumber? (text : RawText) : Option Nat :=
  (splitAtAll 'x' text).foldl
    (fun product? part =>
      let digits := part.takeWhile Char.isDigit
      match product?, blockUnit? (part.drop digits.length) with
      | some product, some unit =>
        if digits.isEmpty then none else some (product * (readInBase 10 digits * unit))
      | _, _ => none)
    (some 1)

/-- A part of a file: some blocks and some bytes more. -/
structure BlockExtent where
  blocks : Nat := 0
  bytes : Nat := 0
  deriving DecidableEq

def BlockExtent.ofBytes (size n : Nat) : BlockExtent :=
  ⟨n / size, n % size⟩

def BlockExtent.total (size : Nat) (extent : BlockExtent) : Nat :=
  extent.blocks * size + extent.bytes

/-- How often a number was given, and whether it counts bytes. -/
structure GivenCount where
  number : Nat
  countsBytes : Bool

def GivenCount.extent (count : GivenCount) (size : Nat) (countsBytes : Bool) : BlockExtent :=
  if count.countsBytes || countsBytes then .ofBytes size count.number else ⟨count.number, 0⟩

inductive ReportLevel
  | full
  | records
  | silent
  deriving DecidableEq

/-- What is copied and how. -/
structure BlockCopy where
  source : Option RawText := none
  target : Option RawText := none
  commonSize : Option Nat := none
  readSize : Option Nat := none
  writeSize : Option Nat := none
  lineSize : Nat := 0
  count : Option GivenCount := none
  skipped : Option GivenCount := none
  sought : Option GivenCount := none
  conversions : List RawText := []
  readFlags : List RawText := []
  writeFlags : List RawText := []
  report : ReportLevel := .full

namespace BlockCopy

def converts (copy : BlockCopy) (name : String) : Bool :=
  copy.conversions.contains (raw name)

def inputSize (copy : BlockCopy) : Nat :=
  (copy.commonSize <|> copy.readSize).getD 512

def outputSize (copy : BlockCopy) : Nat :=
  (copy.commonSize <|> copy.writeSize).getD 512

/-- Whether text is gathered until a block of output is full. -/
def gathers (copy : BlockCopy) : Bool :=
  copy.commonSize.isNone || ["block", "unblock", "lcase", "ucase", "swab"].any copy.converts

def shapesLines (copy : BlockCopy) : Bool :=
  copy.lineSize != 0 && (copy.converts "block" || copy.converts "unblock")

end BlockCopy

def conversionNames : List String :=
  ["block", "unblock", "lcase", "ucase", "sparse", "swab", "sync", "excl", "nocreat", "notrunc",
    "noerror", "fdatasync", "fsync"]

def readFlagNames : List String :=
  ["append", "direct", "directory", "dsync", "sync", "fullblock", "nonblock", "noatime", "nocache",
    "noctty", "nofollow", "count_bytes", "skip_bytes"]

def writeFlagNames : List String :=
  ["append", "direct", "directory", "dsync", "sync", "nonblock", "nocache", "noctty", "nofollow",
    "seek_bytes"]

/-- The words of a list that stands behind an operand; each has to be known. -/
def knownWords (what : String) (known : List String) (value : RawText) : Tool (List RawText) :=
  (splitAtAll ',' value).mapM fun word =>
    if known.any fun name => raw name == word then pure word
    else misuse 1 (raw "invalid " ++ raw what ++ raw ": " ++ quoted word)

def readBlockNumber (least : Nat) (value : RawText) : Tool Nat := do
  match blockNumber? value with
  | some n =>
    if n < least then fail 1 (raw "invalid number: " ++ quoted value)
    return n
  | none => fail 1 (raw "invalid number: " ++ quoted value)

def readBlockOperand (copy : BlockCopy) (operand : RawText) : Tool BlockCopy := do
  let counted := fun (value : RawText) => do
    return some ⟨← readBlockNumber 0 value, value.contains 'B'⟩
  match splitAtFirst? (· == '=') operand with
  | none => misuse 1 (raw "unrecognized operand " ++ quoted operand)
  | some (name, value) =>
    match String.ofList name with
    | "if" => return { copy with source := some value }
    | "of" => return { copy with target := some value }
    | "bs" => return { copy with commonSize := some (← readBlockNumber 1 value) }
    | "ibs" => return { copy with readSize := some (← readBlockNumber 1 value) }
    | "obs" => return { copy with writeSize := some (← readBlockNumber 1 value) }
    | "cbs" => return { copy with lineSize := ← readBlockNumber 1 value }
    | "count" => return { copy with count := ← counted value }
    | "skip" | "iseek" => return { copy with skipped := ← counted value }
    | "seek" | "oseek" => return { copy with sought := ← counted value }
    | "conv" =>
      let words ← knownWords "conversion" conversionNames value
      return { copy with conversions := copy.conversions ++ words }
    | "iflag" =>
      return { copy with readFlags := copy.readFlags ++ (← knownWords "input flag" readFlagNames value) }
    | "oflag" =>
      let words ← knownWords "output flag" writeFlagNames value
      return { copy with writeFlags := copy.writeFlags ++ words }
    | "status" =>
      match String.ofList value with
      | "none" => return { copy with report := .silent }
      | "noxfer" => return { copy with report := .records }
      | "progress" => return { copy with report := .full }
      | _ => misuse 1 (raw "invalid status level: " ++ quoted value)
    | _ => misuse 1 (raw "unrecognized operand " ++ quoted operand)

def checkCombinations (copy : BlockCopy) : Tool Unit := do
  for (a, b) in [("block", "unblock"), ("lcase", "ucase"), ("excl", "nocreat")] do
    if copy.converts a && copy.converts b then
      fail 1 (raw "cannot combine " ++ raw a ++ raw " and " ++ raw b)

/-! ## Records -/

/-- What has been copied so far; `gathered` is text that waits for its block, and `odd` a byte that
waits for the one to change places with. -/
structure CopyProgress where
  fullReads : Nat := 0
  partialReads : Nat := 0
  fullWrites : Nat := 0
  partialWrites : Nat := 0
  written : Nat := 0
  gathered : RawText := []
  odd : Option Char := none
  cutLines : Nat := 0
  status : Nat := 0

def swapPairs : RawText → RawText × Option Char
  | a :: b :: rest =>
    let (swapped, odd) := swapPairs rest
    (b :: a :: swapped, odd)
  | [a] => ([], some a)
  | [] => ([], none)

/-- Writes one record and counts it. -/
def writeRecord (number size : Nat) (text : RawText) (progress : CopyProgress) :
    Tool (CopyProgress × Bool) := do
  match ← ask (.write number text) with
  | .ok () =>
    let isFull := text.length == size
    return ({ progress with
      fullWrites := progress.fullWrites + if isFull then 1 else 0
      partialWrites := progress.partialWrites + if isFull then 0 else 1
      written := progress.written + text.length }, true)
  | .error fault =>
    say (raw "error writing 'standard output': " ++ raw fault.description)
    return ({ progress with status := 1 }, false)

/-- Writes all full blocks of what has been gathered. -/
def writeFullBlocks (number size : Nat) : Nat → CopyProgress → Tool (CopyProgress × Bool)
  | 0, progress => return (progress, true)
  | fuel + 1, progress => do
    let block := progress.gathered.take size
    if block.length < size then return (progress, true)
    let rest := progress.gathered.drop size
    match ← writeRecord number size block { progress with gathered := rest } with
    | (progress, true) => writeFullBlocks number size fuel progress
    | result => return result

/-- Reads a block, or as much as there is before the end or an error. -/
def readWhole (size : Nat) : Nat → RawText → Tool (Fallible RawText)
  | 0, text => return .ok text
  | fuel + 1, text => do
    match ← ask (.read 0 (size - text.length)) with
    | .ok [] => return .ok text
    | .ok more =>
      let text := text ++ more
      if text.length < size then readWhole size fuel text else return .ok text
    | .error fault => return if text.isEmpty then .error fault else .ok text

namespace BlockCopy

def readBlock (copy : BlockCopy) (size : Nat) : Tool (Fallible RawText) :=
  if copy.readFlags.contains (raw "fullblock") then readWhole size (size + 1) []
  else ask (.read 0 size)

/-- Text as the conversions make it. -/
def converted (copy : BlockCopy) (text : RawText) (progress : CopyProgress) :
    RawText × CopyProgress :=
  let text :=
    if copy.converts "lcase" then text.map Char.toLower
    else if copy.converts "ucase" then text.map Char.toUpper
    else text
  if copy.converts "swab" then
    let (swapped, odd) := swapPairs (progress.odd.toList ++ text)
    (swapped, { progress with odd := odd })
  else (text, progress)

/-- Lines filled up to one length, or pieces of that length as lines without spaces at the end;
also the number of lines that were too long. -/
def shaped (copy : BlockCopy) (text : RawText) : RawText × Nat :=
  if copy.converts "block" then
    let lines := plainLines text
    (lines.flatMap fun line => padRight copy.lineSize (line.take copy.lineSize),
      (lines.filter fun line => decide (copy.lineSize < line.length)).length)
  else
    let pieces := cut (text.length + 1) text
    (joinLines (pieces.map (trimEndOf (· == ' '))), 0)
where
  cut : Nat → RawText → List RawText
    | 0, _ => []
    | _, [] => []
    | fuel + 1, text => text.take copy.lineSize :: cut fuel (text.drop copy.lineSize)

def isComplete (limit : Option BlockExtent) (progress : CopyProgress) : Bool :=
  match limit with
  | none => false
  | some limit =>
    decide (limit.blocks + (if limit.bytes = 0 then 0 else 1) ≤
      progress.fullReads + progress.partialReads)

/-- Copies block by block. -/
def run (copy : BlockCopy) (limit : Option BlockExtent) : Nat → CopyProgress → Tool CopyProgress
  | 0, progress => return progress
  | fuel + 1, progress => do
    if isComplete limit progress then return progress
    let wanted :=
      match limit with
      | some limit =>
        if limit.blocks ≤ progress.fullReads + progress.partialReads then limit.bytes
        else copy.inputSize
      | none => copy.inputSize
    match ← copy.readBlock wanted with
    | .error fault =>
      let shown := quoted (copy.source.getD (raw "standard input"))
      say (raw "error reading " ++ shown ++ raw ": " ++ raw fault.description)
      return { progress with status := 1 }
    | .ok [] => return progress
    | .ok text =>
      let isFull := text.length == copy.inputSize
      let progress :=
        { progress with
          fullReads := progress.fullReads + if isFull then 1 else 0
          partialReads := progress.partialReads + if isFull then 0 else 1 }
      let filling := if copy.shapesLines then ' ' else '\x00'
      let text :=
        if copy.converts "sync" then
          text ++ List.replicate (copy.inputSize - text.length) filling
        else text
      if !copy.gathers then
        match ← writeRecord 1 copy.inputSize text progress with
        | (progress, true) => run copy limit fuel progress
        | (progress, false) => return progress
      else
        let (text, progress) := copy.converted text progress
        let progress := { progress with gathered := progress.gathered ++ text }
        if copy.shapesLines then run copy limit fuel progress
        else
          match ← writeFullBlocks 1 copy.outputSize (progress.gathered.length + 1) progress with
          | (progress, true) => run copy limit fuel progress
          | (progress, false) => return progress

/-- Writes what is left when the input has ended. -/
def finish (copy : BlockCopy) (progress : CopyProgress) : Tool CopyProgress := do
  let left := progress.gathered ++ progress.odd.toList
  let (left, cutLines) := if copy.shapesLines then copy.shaped left else (left, 0)
  let progress := { progress with gathered := left, odd := none, cutLines := cutLines }
  match ← writeFullBlocks 1 copy.outputSize (left.length + 1) progress with
  | (progress, false) => return progress
  | (progress, true) =>
    if progress.gathered.isEmpty then return progress
    let (progress, _) ← writeRecord 1 copy.outputSize progress.gathered progress
    return progress

/-! ## Places -/

/-- Reads past a part of the input, and gives how much of it there was. -/
def skipInput (isWhole : Bool) (size : Nat) : Nat → BlockExtent → Nat → Tool Nat
  | 0, _, passed => return passed
  | fuel + 1, extent, passed => do
    if extent == {} then return passed
    let wanted :=
      if isWhole then extent.total size else if extent.blocks = 0 then extent.bytes else size
    match ← ask (.read 0 wanted) with
    | .ok (c :: cs) =>
      let n := (c :: cs).length
      let rest : BlockExtent :=
        if isWhole then .ofBytes size (wanted - n)
        else if extent.blocks = 0 then ⟨0, 0⟩
        else ⟨extent.blocks - 1, extent.bytes⟩
      skipInput isWhole size fuel rest (passed + n)
    | _ => return passed

def skip (copy : BlockCopy) : Tool Unit := do
  match copy.skipped with
  | none => return
  | some count =>
    let size := copy.inputSize
    let extent := count.extent size (copy.readFlags.contains (raw "skip_bytes"))
    let isWhole :=
      match ← ask (.statusOfOpen 0) with
      | .ok status => status.kind == .regular
      | .error _ => false
    let passed ← skipInput isWhole size (extent.total size + 1) extent 0
    if passed < extent.total size && copy.report != .silent then
      say (quoted (copy.source.getD (raw "standard input")) ++
        raw ": cannot skip to specified offset")

def openSource (copy : BlockCopy) : Tool Unit := do
  match copy.source with
  | none => return
  | some name =>
    match ← ask (.openFile name { reads := true }) with
    | .error fault => fail 1 (raw "failed to open " ++ quoted name ++ raw ": " ++ raw fault.description)
    | .ok number =>
      let _ ← ask (.copyTo number 0)
      let _ ← ask (.close number)

/-- Reads past what stands before the place of the first write. -/
def passOver (number : Nat) : Nat → Nat → Tool Unit
  | 0, _ => return
  | fuel + 1, n => do
    if n = 0 then return
    match ← ask (.read number n) with
    | .ok (c :: cs) => passOver number fuel (n - (c :: cs).length)
    | _ => return

def openTarget (copy : BlockCopy) : Tool Unit := do
  let place :=
    match copy.sought with
    | none => 0
    | some count =>
      let countsBytes := copy.writeFlags.contains (raw "seek_bytes")
      (count.extent copy.outputSize countsBytes).total copy.outputSize
  match copy.target with
  | none =>
    if 0 < place then fail 1 (raw "'standard output': cannot seek: Illegal seek")
  | some name =>
    let keeps := copy.converts "notrunc"
    let mode : OpenMode :=
      { writes := true, reads := decide (0 < place), creates := !copy.converts "nocreat"
        truncates := !keeps && place = 0, exclusive := copy.converts "excl"
        appends := copy.writeFlags.contains (raw "append") }
    match ← ask (.openFile name mode) with
    | .error fault => fail 1 (raw "failed to open " ++ quoted name ++ raw ": " ++ raw fault.description)
    | .ok number =>
      if 0 < place then
        match ← ask (.statusOf name true) with
        | .ok status =>
          if status.kind == .regular && (!keeps || status.size < place) then
            let _ ← ask (.setSize name place)
        | .error _ => pure ()
        passOver number (place + 1) place
      let _ ← ask (.copyTo number 1)
      let _ ← ask (.close number)

end BlockCopy

/-! ## Report -/

/-- A number of bytes in the largest unit that it reaches, with one decimal place below ten. -/
def unitText (base : Nat) (units : List String) (n : Nat) : RawText :=
  go units base
where
  go : List String → Nat → RawText
    | [], _ => naturalText n ++ raw " B"
    | unit :: units, scale =>
      let tenths := (20 * n + scale) / (2 * scale)
      let whole := (2 * n + scale) / (2 * scale)
      if whole < base || units.isEmpty then
        (if tenths < 100 then naturalText (tenths / 10) ++ '.' :: naturalText (tenths % 10)
          else naturalText whole) ++ ' ' :: raw unit
      else go units (scale * base)

def sizeText (n : Nat) : RawText :=
  let decimal := unitText 1000 ["kB", "MB", "GB", "TB", "PB", "EB"] n
  let binary := unitText 1024 ["KiB", "MiB", "GiB", "TiB", "PiB", "EiB"] n
  let count := naturalText n ++ if n = 1 then raw " byte" else raw " bytes"
  if n < 1000 then count
  else if n < 1024 then count ++ raw " (" ++ decimal ++ raw ")"
  else count ++ raw " (" ++ decimal ++ raw ", " ++ binary ++ raw ")"

def putReport (level : ReportLevel) (progress : CopyProgress) : Tool Unit := do
  if level == .silent then return
  let records := fun (full part : Nat) (direction : String) =>
    naturalText full ++ '+' :: naturalText part ++ raw " records " ++ raw direction ++ ['\n']
  sayPlainly (records progress.fullReads progress.partialReads "in" ++
    records progress.fullWrites progress.partialWrites "out")
  if 0 < progress.cutLines then
    sayPlainly (naturalText progress.cutLines ++ raw " truncated record" ++
      (if progress.cutLines = 1 then [] else ['s']) ++ ['\n'])
  if level == .full then
    sayPlainly (sizeText progress.written ++ raw " copied, 0 s, Infinity B/s\n")

def runBlockCopy (arguments : List RawText) : Tool Unit := do
  let options ← readOptions 1 [] arguments
  let copy ← options.operands.foldlM readBlockOperand {}
  checkCombinations copy
  copy.openSource
  copy.openTarget
  copy.skip
  let limit := copy.count.map fun count =>
    count.extent copy.inputSize (copy.readFlags.contains (raw "count_bytes"))
  let progress ← copy.run limit streamFuel {}
  let progress ← if progress.status = 0 then copy.finish progress else pure progress
  putReport copy.report progress
  setStatus progress.status

end KeyJoin.Tools
