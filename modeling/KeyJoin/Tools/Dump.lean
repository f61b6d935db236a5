import KeyJoin.Host.Conversion
import KeyJoin.Tools.Options
import KeyJoin.Tools.Stream

/-!
# Bytes shown as text

One tool shows bytes as numbers or characters, line by line behind their place
in the input; a line that repeats the one before it is left out.  Another one
writes bytes with sixty-four characters, and reads them back.
-/

namespace KeyJoin.Tools

open Tool

/-! ## Fields -/

inductive ByteForm
  | character
  | name
  | number (base : Nat) (isSigned : Bool)
  | float

/-- How the bytes of a line are shown: in units of a size. -/
structure DumpField where
  form : ByteForm
  size : Nat
  showsText : Bool := false

def controlNames : List String :=
  ["nul", "soh", "stx", "etx", "eot", "enq", "ack", "bel", "bs", "ht", "nl", "vt", "ff", "cr", "so",
    "si", "dle", "dc1", "dc2", "dc3", "dc4", "nak", "syn", "etb", "can", "em", "sub", "esc", "fs",
    "gs", "rs", "us", "sp"]

def byteName (c : Char) : RawText :=
  let n := c.toNat % 128
  if n = 127 then raw "del"
  else
    match controlNames[n]? with
    | some name => raw name
    | none => [byteCharacter n]

def characterCell (c : Char) : RawText :=
  match c with
  | '\x00' => ['\\', '0']
  | '\x07' => ['\\', 'a']
  | '\x08' => ['\\', 'b']
  | '\x0c' => ['\\', 'f']
  | '\n' => ['\\', 'n']
  | '\x0d' => ['\\', 'r']
  | '\t' => ['\\', 't']
  | '\x0b' => ['\\', 'v']
  | c => if isPrintByte c then [c] else padZeros 3 (digitsInBase 8 c.toNat)

/-- The number that bytes give, the lowest first. -/
def littleEndian (bytes : RawText) : Nat :=
  bytes.reverse.foldl (fun n c => n * 256 + c.toNat) 0

namespace DumpField

def digits (field : DumpField) (base : Nat) : Nat :=
  (Nat.toDigits base (twoTo (8 * field.size) - 1)).length

def width (field : DumpField) : Nat :=
  match field.form with
  | .character | .name => 3
  | .number 10 true => (Nat.toDigits 10 (twoTo (8 * field.size) / 2)).length + 1
  | .number base _ => field.digits base
  | .float => if field.size = 4 then 15 else 24

/-- Shows a unit, given its bytes. -/
def cell (field : DumpField) (bytes : RawText) : RawText :=
  match field.form with
  | .character => characterCell (bytes.headD '\x00')
  | .name => byteName (bytes.headD '\x00')
  | .number base isSigned =>
    let n := littleEndian (bytes ++ List.replicate (field.size - bytes.length) '\x00')
    let half := twoTo (8 * field.size) / 2
    if isSigned then
      integerText (if n < half then n else (n : Int) - twoTo (8 * field.size))
    else if base = 10 then naturalText n
    else padZeros (field.digits base) (digitsInBase base n)
  | .float =>
    let n := littleEndian bytes
    let x := if field.size = 4 then (Float32.ofBits n.toUInt32).toFloat else Float.ofBits n.toUInt64
    let isRead := fun (precision : Nat) =>
      match readFloat? ({ precision := some precision : Conversion }.float 'g' x) with
      | some (y, _) =>
        if field.size = 4 then y.toFloat32.toBits == x.toFloat32.toBits else y.toBits == x.toBits
      | none => false
    let precision := ((List.range' 1 17).find? isRead).getD 17
    { precision := some precision : Conversion }.float 'g' x

end DumpField

def unitsOf (size : Nat) : Nat → RawText → List RawText
  | 0, _ => []
  | _, [] => []
  | fuel + 1, bytes => bytes.take size :: unitsOf size fuel (bytes.drop size)

/-- The cells of a line, padded so that the fields of all forms stand in columns. -/
def fieldLine (lineSize columnWidth : Nat) (field : DumpField) (bytes : RawText) : RawText :=
  let count := lineSize / field.size
  let padding := columnWidth - field.width * count
  let units := unitsOf field.size (bytes.length + 1) bytes
  let cells := (units.zipIdx).flatMap fun (unit, i) =>
    let before := padding * (count - i) / count - padding * (count - i - 1) / count
    padLeft (before + field.width) (field.cell unit)
  if field.showsText then
    let missing := columnWidth / count * (count - units.length)
    cells ++ List.replicate missing ' ' ++ raw "  >" ++
      bytes.map (fun c => if isPrintByte c then c else '.') ++ ['<']
  else cells

/-! ## Options -/

def dumpSize? (letter : Char) : Option Nat :=
  match letter with
  | 'C' => some 1
  | 'S' => some 2
  | 'I' => some 4
  | 'L' => some 8
  | 'F' => some 4
  | 'D' => some 8
  | _ => none

/-- The fields that a text asks for. -/
def dumpFields : Nat → RawText → Option (List DumpField)
  | 0, _ => none
  | _, [] => some []
  | fuel + 1, c :: rest =>
    let form? : Option (ByteForm × Nat) :=
      match c with
      | 'a' => some (.name, 1)
      | 'c' => some (.character, 1)
      | 'd' => some (.number 10 true, 4)
      | 'o' => some (.number 8 false, 4)
      | 'u' => some (.number 10 false, 4)
      | 'x' => some (.number 16 false, 4)
      | 'f' => some (.float, 8)
      | _ => none
    match form? with
    | none => none
    | some (form, usual) =>
      let hasSize := c != 'a' && c != 'c'
      let digits := if hasSize then rest.takeWhile Char.isDigit else []
      let (size, rest) :=
        if !digits.isEmpty then (readInBase 10 digits, rest.drop digits.length)
        else
          match rest with
          | d :: after =>
            match if hasSize then dumpSize? d else none with
            | some size => (size, after)
            | none => (usual, rest)
          | [] => (usual, rest)
      let (showsText, rest) :=
        match rest with
        | 'z' :: after => (true, after)
        | _ => (false, rest)
      if !([1, 2, 4, 8].contains size) then none
      else (dumpFields fuel rest).map (⟨form, size, showsText⟩ :: ·)

/-- The fields that a letter of an option stands for. -/
def letterFields : String → RawText
  | "a" => raw "a"
  | "b" => raw "o1"
  | "c" => raw "c"
  | "d" => raw "u2"
  | "f" => raw "f4"
  | "i" => raw "d4"
  | "l" => raw "d8"
  | "o" => raw "o2"
  | "s" => raw "d2"
  | _ => raw "x2"

def dumpRules : List OptionRule :=
  letterRules "abcdfilosxv" ++
    [{ key := "A", letters := "A", name := "address-radix", argument := .required },
      { key := "j", letters := "j", name := "skip-bytes", argument := .required },
      { key := "N", letters := "N", name := "read-bytes", argument := .required },
      { key := "t", letters := "t", name := "format", argument := .required },
      { key := "v", name := "output-duplicates" },
      { key := "w", letters := "w", name := "width", argument := .possible }]

/-- A number of bytes, also in octal or hexadecimal and with a unit. -/
def byteCount? (text : RawText) : Option Nat :=
  let (base, body) :=
    match text with
    | '0' :: 'x' :: rest | '0' :: 'X' :: rest => (16, rest)
    | '0' :: _ :: _ => (8, text)
    | _ => (10, text)
  let digits := body.takeWhile fun c => digitValue c < base
  let unit : Option Nat :=
    match body.drop digits.length with
    | [] => some 1
    | ['b'] => some 512
    | ['k'] | ['K'] => some 1024
    | ['m'] | ['M'] => some (1024 * 1024)
    | _ => none
  if digits.isEmpty then none else unit.map (readInBase base digits * ·)

def addressText (radix : Char) (place : Nat) : RawText :=
  match radix with
  | 'n' => []
  | 'd' => padZeros 7 (naturalText place)
  | 'x' => padZeros 6 (digitsInBase 16 place)
  | _ => padZeros 7 (digitsInBase 8 place)

/-- Prints lines of bytes; `last` is the line before, and `isRepeating` says that it was left out. -/
def putDump (fields : List DumpField) (radix : Char) (lineSize : Nat) (showsRepeated : Bool) :
    Nat → Nat → Option RawText → Bool → RawText → Tool Unit
  | 0, _, _, _, _ => return
  | fuel + 1, place, last, isRepeating, bytes => do
    if bytes.isEmpty then
      if radix != 'n' then putLine (addressText radix place)
    else
      let line := bytes.take lineSize
      let goOn := putDump fields radix lineSize showsRepeated fuel (place + line.length) (some line)
      if !showsRepeated && last == some line && line.length == lineSize then
        if !isRepeating then putLine ['*']
        goOn true (bytes.drop lineSize)
      else
        let columnWidth := (fields.map fun field => (field.width + 1) * (lineSize / field.size)).foldl
          max 0
        for (field, i) in fields.zipIdx do
          let address := addressText radix place
          put (if i = 0 then address else List.replicate address.length ' ')
          putLine (fieldLine lineSize columnWidth field line)
        goOn false (bytes.drop lineSize)

def runDump (arguments : List RawText) : Tool Unit := do
  let options ← readOptions 1 dumpRules arguments
  let asked := options.given.filterMap fun (key, value) =>
    if key == "t" then some value
    else if "abcdfilosx".toList.any fun c => c.toString == key then some (letterFields key)
    else none
  let asked := if asked.isEmpty then [raw "o2"] else asked
  let fields ← asked.mapM fun text =>
    match dumpFields (text.length + 1) text with
    | some fields => pure fields
    | none =>
      fail 1 (raw "invalid character '" ++ text.take 1 ++ raw "' in type string " ++ quoted text)
  let fields := fields.flatten
  let radix := ((options.value? "A").getD ['o']).headD 'o'
  if !(['d', 'o', 'x', 'n'].contains radix) then
    fail 1 (raw "invalid output address radix '" ++ [radix] ++
      raw "'; it must be one character from [doxn]")
  let number := fun (key : String) (shown : String) => do
    match options.value? key with
    | none => pure none
    | some text =>
      match byteCount? text with
      | some n => pure (some n)
      | none => fail 1 (raw "invalid -" ++ raw shown ++ raw " argument " ++ quoted text)
  let skipped := (← number "j" "j").getD 0
  let limit ← number "N" "N"
  let lineSize ←
    match options.value? "w" with
    | none => pure 16
    | some [] => pure 32
    | some text => pure ((byteCount? text).getD 16)
  let inputs ← readInputs options.operands
  if inputs.isEmpty then return
  let text := inputs.flatMap (·.2)
  if text.length < skipped then fail 1 (raw "cannot skip past end of combined input")
  let bytes := text.drop skipped
  let bytes := match limit with
    | some n => bytes.take n
    | none => bytes
  putDump fields radix (max 1 lineSize) (options.has "v") (bytes.length + 2) skipped none false bytes

/-! ## Sixty-four characters -/

def sixtyFourDigits : Array Char :=
  "ABCDEFGHIJKLMNOPQRSTUVWXYZabcdefghijklmnopqrstuvwxyz0123456789+/".toList.toArray

/-- Writes each three bytes as four characters. -/
def encodeBytes : RawText → RawText
  | [] => []
  | a :: rest =>
    let digit := fun (n : Nat) => sixtyFourDigits.getD (n % 64) 'A'
    let n := a.toNat
    match rest with
    | [] => [digit (n / 4), digit (n * 16), '=', '=']
    | [b] =>
      let m := n * 256 + b.toNat
      [digit (m / 1024), digit (m / 16), digit (m * 4), '=']
    | b :: c :: rest =>
      let m := (n * 256 + b.toNat) * 256 + c.toNat
      digit (m / 262144) :: digit (m / 4096) :: digit (m / 64) :: digit m :: encodeBytes rest

/-- The bytes of a text of such characters, and whether it was read to its end. -/
def decodeCharacters : Nat → RawText → RawText × Bool
  | 0, _ => ([], true)
  | _, [] => ([], true)
  | fuel + 1, text =>
    let value := fun (c : Char) => (sixtyFourDigits.toList.idxOf? c)
    match text with
    | a :: b :: c :: d :: rest =>
      match value a, value b, value c, value d with
      | some a, some b, some c, some d =>
        let n := ((a * 64 + b) * 64 + c) * 64 + d
        let (more, isWhole) := decodeCharacters fuel rest
        (byteCharacter (n / 65536) :: byteCharacter (n / 256) :: byteCharacter n :: more, isWhole)
      | some a, some b, some c, none =>
        let n := (a * 64 + b) * 64 + c
        let bytes := [byteCharacter (n / 1024), byteCharacter (n / 4)]
        if d == '=' then
          let (more, isWhole) := decodeCharacters fuel rest
          (bytes ++ more, isWhole)
        else (bytes, false)
      | some a, some b, none, none =>
        let bytes := [byteCharacter ((a * 64 + b) / 16)]
        if c == '=' && d == '=' then
          let (more, isWhole) := decodeCharacters fuel rest
          (bytes ++ more, isWhole)
        else (bytes, false)
      | _, _, _, _ => ([], false)
    | [a, b, c] =>
      match value a, value b, value c with
      | some a, some b, some c =>
        let n := (a * 64 + b) * 64 + c
        ([byteCharacter (n / 1024), byteCharacter (n / 4)], false)
      | _, _, _ => ([], false)
    | [a, b] =>
      match value a, value b with
      | some a, some b => ([byteCharacter ((a * 64 + b) / 16)], false)
      | _, _ => ([], false)
    | _ => ([], false)

/-- Cuts a text into lines of a width. -/
def wrapped (width : Nat) : Nat → RawText → RawText
  | 0, text => text
  | fuel + 1, text =>
    if text.isEmpty then []
    else if width = 0 then text
    else text.take width ++ '\n' :: wrapped width fuel (text.drop width)

def runSixtyFour (arguments : List RawText) : Tool Unit := do
  let options ← readOptions 1
    [{ key := "d", letters := "d", name := "decode" },
      { key := "i", letters := "i", name := "ignore-garbage" },
      { key := "w", letters := "w", name := "wrap", argument := .required }]
    arguments
  match options.operands with
  | _ :: operand :: _ => extraOperand 1 operand
  | _ => pure ()
  let width ←
    match options.value? "w" with
    | none => pure 76
    | some text =>
      match natural? text with
      | some n => pure n
      | none => fail 1 (raw "invalid wrap size: " ++ quoted text)
  let name := options.operands.headD standardInput
  match ← readFile name with
  | .error fault =>
    sayFault name fault
    exit 1
  | .ok text =>
    if options.has "d" then
      let kept := text.filter fun c =>
        if options.has "i" then c == '=' || sixtyFourDigits.contains c else c != '\n'
      let (bytes, isWhole) := decodeCharacters (kept.length + 1) kept
      put bytes
      if !isWhole then fail 1 (raw "invalid input")
    else put (wrapped width (text.length * 2 + 2) (encodeBytes text))

end KeyJoin.Tools
