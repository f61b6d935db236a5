import KeyJoin.Tools.Dump

/-!
# Digests

Tools that print a number by which a text can be told from others: remainders,
sums, and digests.  A digest goes through a text in blocks of sixteen words.
Each block is mixed into a state of a few words in many equal rounds, and what
comes out is added to the state before; the last block holds the length of the
text.
-/

namespace KeyJoin.Tools

open Tool

/-! ## Blocks -/

/-- How a text is digested in words of a size. -/
structure DigestRule (size : Nat) where
  lowestFirst : Bool := false
  start : List (BitVec size)
  mix : List (BitVec size) → Array (BitVec size) → List (BitVec size)
  length : Nat

/-- The bytes of a number, the highest first. -/
def numberBytes (count n : Nat) : RawText :=
  (List.range count).reverse.map fun i => byteCharacter (n / twoTo (8 * i))

namespace DigestRule

variable {size : Nat} (rule : DigestRule size)

def wordBytes (size : Nat) : Nat :=
  size / 8

def blockBytes (size : Nat) : Nat :=
  16 * wordBytes size

def ordered (bytes : RawText) : RawText :=
  if rule.lowestFirst then bytes.reverse else bytes

def word (bytes : RawText) : BitVec size :=
  BitVec.ofNat size (littleEndian (rule.ordered bytes).reverse)

def bytesOfWord (word : BitVec size) : RawText :=
  rule.ordered (numberBytes (wordBytes size) word.toNat)

/-- A text with a mark at its end, filled up so that its length in bits ends the last block. -/
def padded (text : RawText) : RawText :=
  let lengthBytes := 2 * wordBytes size
  let used := (text.length + 1 + lengthBytes) % blockBytes size
  text ++ '\x80' :: List.replicate ((blockBytes size - used) % blockBytes size) '\x00' ++
    rule.ordered (numberBytes lengthBytes (8 * text.length))

def step (state : List (BitVec size)) (block : RawText) : List (BitVec size) :=
  let units := unitsOf (wordBytes size) (block.length + 1) block
  List.zipWith (· + ·) state (rule.mix state (units.map rule.word).toArray)

def digest (text : RawText) : RawText :=
  let text := rule.padded text
  let blocks := unitsOf (blockBytes size) (text.length + 1) text
  ((blocks.foldl rule.step rule.start).flatMap rule.bytesOfWord).take rule.length

end DigestRule

/-! ## Four and five words -/

def fourWordSums : Array (BitVec 32) :=
  #[0xd76aa478, 0xe8c7b756, 0x242070db, 0xc1bdceee, 0xf57c0faf, 0x4787c62a,
    0xa8304613, 0xfd469501, 0x698098d8, 0x8b44f7af, 0xffff5bb1, 0x895cd7be,
    0x6b901122, 0xfd987193, 0xa679438e, 0x49b40821, 0xf61e2562, 0xc040b340,
    0x265e5a51, 0xe9b6c7aa, 0xd62f105d, 0x02441453, 0xd8a1e681, 0xe7d3fbc8,
    0x21e1cde6, 0xc33707d6, 0xf4d50d87, 0x455a14ed, 0xa9e3e905, 0xfcefa3f8,
    0x676f02d9, 0x8d2a4c8a, 0xfffa3942, 0x8771f681, 0x6d9d6122, 0xfde5380c,
    0xa4beea44, 0x4bdecfa9, 0xf6bb4b60, 0xbebfbc70, 0x289b7ec6, 0xeaa127fa,
    0xd4ef3085, 0x04881d05, 0xd9d4d039, 0xe6db99e5, 0x1fa27cf8, 0xc4ac5665,
    0xf4292244, 0x432aff97, 0xab9423a7, 0xfc93a039, 0x655b59c3, 0x8f0ccc92,
    0xffeff47d, 0x85845dd1, 0x6fa87e4f, 0xfe2ce6e0, 0xa3014314, 0x4e0811a1,
    0xf7537e82, 0xbd3af235, 0x2ad7d2bb, 0xeb86d391]

def fourWordTurns : Array Nat :=
  #[7, 12, 17, 22, 5, 9, 14, 20, 4, 11, 16, 23, 6, 10, 15, 21]

def fourWordRound (block : Array (BitVec 32)) (state : List (BitVec 32)) (i : Nat) :
    List (BitVec 32) :=
  match state with
  | [a, b, c, d] =>
    let (mixed, place) :=
      match i / 16 with
      | 0 => ((b &&& c) ||| (~~~b &&& d), i)
      | 1 => ((d &&& b) ||| (~~~d &&& c), 5 * i + 1)
      | 2 => (b ^^^ c ^^^ d, 3 * i + 5)
      | _ => (c ^^^ (b ||| ~~~d), 7 * i)
    let sum := a + mixed + fourWordSums.getD i 0 + block.getD (place % 16) 0
    [d, b + sum.rotateLeft (fourWordTurns.getD (4 * (i / 16) + i % 4) 0), b, c]
  | _ => state

def startWords : List (BitVec 32) :=
  [0x67452301, 0xefcdab89, 0x98badcfe, 0x10325476]

def fourWords : DigestRule 32 where
  lowestFirst := true
  start := startWords
  mix := fun state block => (List.range 64).foldl (fourWordRound block) state
  length := 16

/-- Words in which each new one is made of four before it. -/
def fiveWordSchedule (block : Array (BitVec 32)) : Array (BitVec 32) :=
  (List.range' 16 64).foldl
    (fun words i =>
      let back := fun n => words.getD (i - n) 0
      words.push ((back 3 ^^^ back 8 ^^^ back 14 ^^^ back 16).rotateLeft 1))
    block

def fiveWordRound (words : Array (BitVec 32)) (state : List (BitVec 32)) (i : Nat) :
    List (BitVec 32) :=
  match state with
  | [a, b, c, d, e] =>
    let (mixed, constant) : BitVec 32 × BitVec 32 :=
      match i / 20 with
      | 0 => ((b &&& c) ||| (~~~b &&& d), 0x5a827999)
      | 1 => (b ^^^ c ^^^ d, 0x6ed9eba1)
      | 2 => ((b &&& c) ||| (b &&& d) ||| (c &&& d), 0x8f1bbcdc)
      | _ => (b ^^^ c ^^^ d, 0xca62c1d6)
    [a.rotateLeft 5 + mixed + e + constant + words.getD i 0, a, b.rotateLeft 30, c, d]
  | _ => state

def fiveWords : DigestRule 32 where
  start := startWords ++ [0xc3d2e1f0]
  mix := fun state block =>
    (List.range 80).foldl (fiveWordRound (fiveWordSchedule block)) state
  length := 20

/-! ## Eight words -/

/-- The greatest number whose power is at most `n`, found from its highest bit on. -/
def rootBelow (degree bits n : Nat) : Nat :=
  (List.range bits).reverse.foldl
    (fun root i =>
      if Nat.pow (root + twoTo i) degree ≤ n then root + twoTo i else root)
    0

/-- The first sixty-four bits behind the point of a root. -/
def rootFraction (degree n : Nat) : Nat :=
  rootBelow degree 72 (n * twoTo (64 * degree)) % twoTo 64

def primesBelow (limit : Nat) : List Nat :=
  (List.range' 2 (limit - 2)).filter fun n =>
    (List.range' 2 (n - 2)).all fun divisor => n % divisor != 0

/-- What differs between words of thirty-two and of sixty-four bits. -/
structure EightWordRule (size : Nat) where
  rounds : Nat
  firstSum : List Nat
  secondSum : List Nat
  firstSmall : List Nat × Nat
  secondSmall : List Nat × Nat
  constants : Array (BitVec size)

namespace EightWordRule

variable {size : Nat} (rule : EightWordRule size)

def turned (turns : List Nat) (word : BitVec size) : BitVec size :=
  turns.foldl (fun sum n => sum ^^^ word.rotateRight n) 0

def turnedAndShifted (turns : List Nat × Nat) (word : BitVec size) : BitVec size :=
  turned turns.1 word ^^^ (word >>> turns.2)

def schedule (block : Array (BitVec size)) : Array (BitVec size) :=
  (List.range' 16 (rule.rounds - 16)).foldl
    (fun words i =>
      let back := fun n => words.getD (i - n) 0
      words.push (back 16 + turnedAndShifted rule.firstSmall (back 15) + back 7 +
        turnedAndShifted rule.secondSmall (back 2)))
    block

def round (words : Array (BitVec size)) (state : List (BitVec size)) (i : Nat) :
    List (BitVec size) :=
  match state with
  | [a, b, c, d, e, f, g, h] =>
    let chosen := (e &&& f) ^^^ (~~~e &&& g)
    let majority := (a &&& b) ^^^ (a &&& c) ^^^ (b &&& c)
    let first := h + turned rule.secondSum e + chosen + rule.constants.getD i 0 + words.getD i 0
    let second := turned rule.firstSum a + majority
    [first + second, a, b, c, d + first, e, f, g]
  | _ => state

def mix (state : List (BitVec size)) (block : Array (BitVec size)) : List (BitVec size) :=
  (List.range rule.rounds).foldl (rule.round (rule.schedule block)) state

end EightWordRule

def cubeRoots : List Nat :=
  (primesBelow 410).map (rootFraction 3)

def squareRoots : List Nat :=
  (primesBelow 54).map (rootFraction 2)

/-- The higher half of sixty-four bits. -/
def highHalf (n : Nat) : Nat :=
  n / twoTo 32

def shortWords : EightWordRule 32 where
  rounds := 64
  firstSum := [2, 13, 22]
  secondSum := [6, 11, 25]
  firstSmall := ([7, 18], 3)
  secondSmall := ([17, 19], 10)
  constants := (cubeRoots.map fun n => BitVec.ofNat 32 (highHalf n)).toArray

def longWords : EightWordRule 64 where
  rounds := 80
  firstSum := [28, 34, 39]
  secondSum := [14, 18, 41]
  firstSmall := ([1, 8], 7)
  secondSmall := ([19, 61], 6)
  constants := (cubeRoots.map (BitVec.ofNat 64)).toArray

def eightShortWords (start : List Nat) (length : Nat) : DigestRule 32 where
  start := start.map (BitVec.ofNat 32)
  mix := shortWords.mix
  length := length

def eightLongWords (start : List Nat) (length : Nat) : DigestRule 64 where
  start := start.map (BitVec.ofNat 64)
  mix := longWords.mix
  length := length

/-! ## Kinds of digests -/

inductive DigestKind
  | md5
  | sha1
  | sha224
  | sha256
  | sha384
  | sha512
  deriving DecidableEq

namespace DigestKind

def title : DigestKind → String
  | .md5 => "MD5"
  | .sha1 => "SHA1"
  | .sha224 => "SHA224"
  | .sha256 => "SHA256"
  | .sha384 => "SHA384"
  | .sha512 => "SHA512"

def digest : DigestKind → RawText → RawText
  | .md5 => fourWords.digest
  | .sha1 => fiveWords.digest
  | .sha224 => (eightShortWords (squareRoots.drop 8) 28).digest
  | .sha256 => (eightShortWords ((squareRoots.take 8).map highHalf) 32).digest
  | .sha384 => (eightLongWords (squareRoots.drop 8) 48).digest
  | .sha512 => (eightLongWords (squareRoots.take 8) 64).digest

end DigestKind

def hexadecimal (bytes : RawText) : RawText :=
  bytes.flatMap fun c => padZeros 2 (digitsInBase 16 c.toNat)

/-- A name in which line ends and backslashes are written as escapes, and whether it has any. -/
def escapedName (name : RawText) : RawText × Bool :=
  (name.flatMap fun c =>
      match c with
      | '\\' => ['\\', '\\']
      | '\n' => ['\\', 'n']
      | '\x0d' => ['\\', 'r']
      | c => [c],
    name.any fun c => ['\\', '\n', '\x0d'].contains c)

/-- Prints the digest of a text with the name of its file behind it, or in front of it. -/
def putDigest (kind : DigestKind) (isTagged isBinary endsWithNull : Bool) (name text : RawText) :
    Tool Unit := do
  let (shown, isEscaped) := if endsWithNull then (name, false) else escapedName name
  if isEscaped then put ['\\']
  let digits := hexadecimal (kind.digest text)
  if isTagged then put (raw kind.title ++ raw " (" ++ shown ++ raw ") = " ++ digits)
  else put (digits ++ ' ' :: (if isBinary then '*' else ' ') :: shown)
  put [if endsWithNull then '\x00' else '\n']

def runDigest (kind : DigestKind) (arguments : List RawText) : Tool Unit := do
  let options ← readOptions 1
    [{ key := "b", letters := "b", name := "binary" },
      { key := "t", letters := "t", name := "text" },
      { key := "z", letters := "z", name := "zero" }, { key := "tag", name := "tag" }]
    arguments
  let isTagged := options.has "tag"
  let mode := options.lastOf ["b", "t"]
  if isTagged && mode == some "t" then misuse 1 (raw "--tag does not support --text mode")
  for name in inputNames options.operands do
    match ← readOrSay name with
    | none => pure ()
    | some text => putDigest kind isTagged (mode == some "b") (options.has "z") name text

/-! ## Remainders and sums -/

/-- The remainder of a division of bits without carrying, one bit further. -/
def shiftRemainder (remainder : UInt32) : UInt32 :=
  if remainder &&& 0x80000000 != 0 then (remainder <<< 1) ^^^ 0x04c11db7 else remainder <<< 1

def addToRemainder (remainder : UInt32) (c : Char) : UInt32 :=
  (List.range 8).foldl (fun remainder _ => shiftRemainder remainder)
    (remainder ^^^ (c.toNat.toUInt32 <<< 24))

/-- The bytes of a number without zeros at the high end, the lowest first. -/
def lengthBytes (n : Nat) : RawText :=
  ((numberBytes 8 n).dropWhile (· == '\x00')).reverse

/-- The remainder of a text and its length, with all bits turned. -/
def textRemainder (text : RawText) : UInt32 :=
  ~~~((text ++ lengthBytes text.length).foldl addToRemainder 0)

/-- A sum of sixteen bits that is turned by one bit before each byte. -/
def turnedSum (text : RawText) : Nat :=
  text.foldl (fun sum c => ((sum / 2 + sum % 2 * 32768) + c.toNat) % 65536) 0

/-- A sum in which what exceeds sixteen bits is added again. -/
def foldedSum (text : RawText) : Nat :=
  let sum := (text.foldl (fun sum c => sum + c.toNat) 0) % twoTo 32
  let folded := sum % 65536 + sum / 65536
  folded % 65536 + folded / 65536

inductive SumKind
  | remainder
  | turned
  | folded

def SumKind.line (kind : SumKind) (text : RawText) : RawText :=
  let length := text.length
  match kind with
  | .remainder => naturalText (textRemainder text).toNat ++ ' ' :: naturalText length
  | .turned =>
    padZeros 5 (naturalText (turnedSum text)) ++
      ' ' :: padLeft 5 (naturalText ((length + 1023) / 1024))
  | .folded => naturalText (foldedSum text) ++ ' ' :: naturalText ((length + 511) / 512)

/-- Prints a line for each file, with its name if any was given. -/
def putSums (kind : SumKind) (names : List RawText) : Tool Unit := do
  for name in inputNames names do
    match ← readOrSay name with
    | none => pure ()
    | some text => putLine (kind.line text ++ if names.isEmpty then [] else ' ' :: name)

def runSum (arguments : List RawText) : Tool Unit := do
  let options ← readOptions 1
    [{ key := "r", letters := "r" }, { key := "s", letters := "s", name := "sysv" }]
    arguments
  let kind := if options.lastOf ["r", "s"] == some "s" then SumKind.folded else .turned
  putSums kind options.operands

inductive ChecksumKind
  | sum (kind : SumKind)
  | digest (kind : DigestKind)

def checksumKinds : List (String × ChecksumKind) :=
  [("bsd", .sum .turned), ("sysv", .sum .folded), ("crc", .sum .remainder), ("md5", .digest .md5),
    ("sha1", .digest .sha1), ("sha224", .digest .sha224), ("sha256", .digest .sha256),
    ("sha384", .digest .sha384), ("sha512", .digest .sha512)]

def checksumNames : List String :=
  checksumKinds.map (·.1) ++ ["blake2b", "sm3"]

def runChecksum (arguments : List RawText) : Tool Unit := do
  let options ← readOptions 1
    [{ key := "a", letters := "a", name := "algorithm", argument := .required },
      { key := "z", letters := "z", name := "zero" }, { key := "tag", name := "tag" },
      { key := "untagged", name := "untagged" }]
    arguments
  let asked := (options.value? "a").getD (raw "crc")
  match checksumKinds.find? fun entry => raw entry.1 == asked with
  | none =>
    say (raw "invalid argument " ++ quoted asked ++ raw " for '--algorithm'")
    sayPlainly (raw "Valid arguments are:\n" ++
      joinLines (checksumNames.map fun name => raw "  - " ++ quoted (raw name)))
    misuse 1 []
  | some (_, .sum kind) => putSums kind options.operands
  | some (_, .digest kind) =>
    for name in inputNames options.operands do
      match ← readOrSay name with
      | none => pure ()
      | some text =>
        putDigest kind (options.lastOf ["tag", "untagged"] != some "untagged") false
          (options.has "z") name text

end KeyJoin.Tools
