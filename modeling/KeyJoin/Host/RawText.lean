import KeyJoin.ByteText

/-!
# Raw text

Programs of the host exchange bytes.  A byte is held as the character of its
number, so that marks can be written as the characters they are; a text in
another script is first written in UTF-8.  Lines end at line feeds, and what
follows the last one counts as a line if it is not empty.
-/

namespace KeyJoin

/-- A sequence of bytes, each held as the character of its number. -/
abbrev RawText := List Char

def rawOfBytes (bytes : Bytes) : RawText :=
  bytes.map fun byte => Char.ofNat byte.toNat

def bytesOfRaw (text : RawText) : Bytes :=
  text.map fun c => UInt8.ofNat c.toNat

/-- The bytes of a text in UTF-8. -/
def rawOfText (text : String) : RawText :=
  rawOfBytes (encodeText text.toList)

/-- The bytes of a text of ASCII characters only. -/
def raw (text : String) : RawText :=
  text.toList

def byteCharacter (n : Nat) : Char :=
  Char.ofNat (n % 256)

/-! ## Numbers -/

def naturalText (n : Nat) : RawText :=
  (toString n).toList

def integerText (n : Int) : RawText :=
  (toString n).toList

def twoTo (n : Nat) : Nat :=
  Nat.pow 2 n

def tenTo (n : Nat) : Nat :=
  Nat.pow 10 n

/-- The value of a digit in the bases up to thirty-six; other characters count as thirty-six. -/
def digitValue (c : Char) : Nat :=
  if c.isDigit then c.toNat - '0'.toNat
  else if 'a' ≤ c ∧ c ≤ 'z' then c.toNat - 'a'.toNat + 10
  else if 'A' ≤ c ∧ c ≤ 'Z' then c.toNat - 'A'.toNat + 10
  else 36

def readInBase (base : Nat) (digits : RawText) : Nat :=
  digits.foldl (fun n c => n * base + digitValue c) 0

/-- The value of a text of one or more decimal digits. -/
def natural? (text : RawText) : Option Nat :=
  if !text.isEmpty && text.all Char.isDigit then some (readInBase 10 text) else none

/-- The value of decimal digits with at most one sign in front. -/
def integer? : RawText → Option Int
  | '-' :: text => (natural? text).map fun n => -(n : Int)
  | '+' :: text => (natural? text).map Int.ofNat
  | text => (natural? text).map Int.ofNat

/-- The digits of a number in a base, at least one. -/
def digitsInBase (base n : Nat) : RawText :=
  Nat.toDigits base n

def padLeft (width : Nat) (text : RawText) : RawText :=
  List.replicate (width - text.length) ' ' ++ text

def padRight (width : Nat) (text : RawText) : RawText :=
  text ++ List.replicate (width - text.length) ' '

def padZeros (width : Nat) (digits : RawText) : RawText :=
  List.replicate (width - digits.length) '0' ++ digits

/-! ## Classes of bytes -/

def isSpaceByte (c : Char) : Bool :=
  c == ' ' || decide ('\t' ≤ c ∧ c ≤ '\x0d')

def isBlankByte (c : Char) : Bool :=
  c == ' ' || c == '\t'

def isOctalDigit (c : Char) : Bool :=
  decide ('0' ≤ c ∧ c ≤ '7')

def isHexDigit (c : Char) : Bool :=
  decide (digitValue c < 16)

def isPrintByte (c : Char) : Bool :=
  decide (' ' ≤ c ∧ c ≤ '~')

def isNameStart (c : Char) : Bool :=
  c.isAlpha || c == '_'

def isNameCharacter (c : Char) : Bool :=
  c.isAlphanum || c == '_'

def isNameText : RawText → Bool
  | [] => false
  | c :: rest => isNameStart c && rest.all isNameCharacter

/-! ## Lines -/

/-- The lines of a text, each with the line feed that ends it. -/
def endedLines (text : RawText) : List RawText :=
  go [] text
where
  go (line : RawText) : RawText → List RawText
    | [] => if line.isEmpty then [] else [line.reverse]
    | '\n' :: rest => ('\n' :: line).reverse :: go [] rest
    | c :: rest => go (c :: line) rest

/-- The lines of a text, each with the mark that ends it. -/
def linesEndedBy (mark : Char) (text : RawText) : List RawText :=
  go [] text
where
  go (line : RawText) : RawText → List RawText
    | [] => if line.isEmpty then [] else [line.reverse]
    | c :: rest => if c == mark then (c :: line).reverse :: go [] rest else go (c :: line) rest

/-- A line without the line feed that may end it. -/
def lineBody (line : RawText) : RawText :=
  line.takeWhile (· != '\n')

/-- The lines of a text without the line feeds that end them. -/
def plainLines (text : RawText) : List RawText :=
  (endedLines text).map lineBody

def joinLines (lines : List RawText) : RawText :=
  lines.flatMap fun line => line ++ ['\n']

def trimEndOf (p : Char → Bool) (text : RawText) : RawText :=
  (text.reverse.dropWhile p).reverse

/-- The parts between separators; a text without any is one part. -/
def splitAtAll (separator : Char) (text : RawText) : List RawText :=
  text.splitOnP (· == separator)

/-- The part before the first character that satisfies `p`, and what follows that character. -/
def splitAtFirst? (p : Char → Bool) (text : RawText) : Option (RawText × RawText) :=
  let before := text.takeWhile fun c => !p c
  match text.drop before.length with
  | [] => none
  | _ :: rest => some (before, rest)

/-! ## Order -/

/-- The order of texts by the first byte that differs, a shorter text before its extensions. -/
def compareRaw : RawText → RawText → Ordering
  | [], [] => .eq
  | [], _ :: _ => .lt
  | _ :: _, [] => .gt
  | c :: a, d :: b => if c = d then compareRaw a b else compare c.toNat d.toNat

def textBefore (a b : RawText) : Bool :=
  compareRaw a b != .gt

def sortTexts (texts : List RawText) : List RawText :=
  texts.mergeSort textBefore

end KeyJoin
