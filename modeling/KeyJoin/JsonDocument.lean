import KeyJoin.TextLines

/-!
# JSON documents

The values of JSON, read by the strict grammar and written over several lines.
Reading accepts one value with white space around it and nothing else.  A
string may name half of a surrogate pair by an escape: such a string is well
formed but stands for no text, and the value that holds it as itself or as one
of its keys is read as `noText`.  Numbers are kept as they are written.
-/

namespace KeyJoin

inductive JsonValue
  | null
  | bool (value : Bool)
  | number (literal : String)
  | string (text : String)
  | array (items : List JsonValue)
  | object (fields : List (String × JsonValue))
  | noText
  deriving Inhabited

/-! ## Reading -/

def isJsonBlank (c : Char) : Bool :=
  c == ' ' || c == '\t' || c == '\n' || c == '\r'

def skipJsonBlanks (text : List Char) : List Char :=
  text.dropWhile isJsonBlank

def hexDigit? (c : Char) : Option Nat :=
  if '0' ≤ c ∧ c ≤ '9' then some (c.toNat - '0'.toNat)
  else if 'a' ≤ c ∧ c ≤ 'f' then some (c.toNat - 'a'.toNat + 10)
  else if 'A' ≤ c ∧ c ≤ 'F' then some (c.toNat - 'A'.toNat + 10)
  else none

def hexCode? (a b c d : Char) : Option Nat :=
  match hexDigit? a, hexDigit? b, hexDigit? c, hexDigit? d with
  | some a, some b, some c, some d => some (((a * 16 + b) * 16 + c) * 16 + d)
  | _, _, _, _ => none

def escapedCharacter? : Char → Option Char
  | '"' => some '"'
  | '\\' => some '\\'
  | '/' => some '/'
  | 'b' => some '\x08'
  | 'f' => some '\x0c'
  | 'n' => some '\n'
  | 'r' => some '\r'
  | 't' => some '\t'
  | _ => none

/-- The codes of a string whose opening quote has been read, and the text after the closing one.
An escape of four hexadecimal digits gives the code they name. -/
def readStringCodes : List Char → Option (List Nat × List Char)
  | [] => none
  | '"' :: rest => some ([], rest)
  | '\\' :: 'u' :: a :: b :: c :: d :: rest =>
    match hexCode? a b c d, readStringCodes rest with
    | some code, some (codes, rest) => some (code :: codes, rest)
    | _, _ => none
  | '\\' :: c :: rest =>
    match escapedCharacter? c, readStringCodes rest with
    | some c, some (codes, rest) => some (c.toNat :: codes, rest)
    | _, _ => none
  | c :: rest =>
    if c.toNat < 0x20 then none
    else (readStringCodes rest).map fun (codes, rest) => (c.toNat :: codes, rest)

def isHighSurrogate (code : Nat) : Bool :=
  decide (0xD800 ≤ code ∧ code < 0xDC00)

def isLowSurrogate (code : Nat) : Bool :=
  decide (0xDC00 ≤ code ∧ code < 0xE000)

/-- Joins surrogate pairs; a surrogate outside a pair leaves no text. -/
def textOfCodes? : List Nat → Option (List Char)
  | [] => some []
  | [code] => if isHighSurrogate code || isLowSurrogate code then none else some [Char.ofNat code]
  | high :: low :: codes =>
    if isHighSurrogate high && isLowSurrogate low then
      (textOfCodes? codes).map
        (Char.ofNat (0x10000 + (high - 0xD800) * 0x400 + (low - 0xDC00)) :: ·)
    else if isHighSurrogate high || isLowSurrogate high then none
    else (textOfCodes? (low :: codes)).map (Char.ofNat high :: ·)

/-- A string whose opening quote has been read, `none` inside if it stands for no text. -/
def readString (text : List Char) : Option (Option String × List Char) :=
  (readStringCodes text).map fun (codes, rest) =>
    ((textOfCodes? codes).map String.ofList, rest)

/-- One or more decimal digits. -/
def readDigits (text : List Char) : Option (List Char × List Char) :=
  match text.takeWhile Char.isDigit with
  | [] => none
  | digits => some (digits, text.dropWhile Char.isDigit)

def readIntegerPart : List Char → Option (List Char × List Char)
  | '0' :: rest =>
    match rest with
    | c :: _ => if c.isDigit then none else some (['0'], rest)
    | [] => some (['0'], [])
  | text => readDigits text

def readFraction : List Char → Option (List Char × List Char)
  | '.' :: rest => (readDigits rest).map fun (digits, rest) => ('.' :: digits, rest)
  | text => some ([], text)

def readExponentSign : List Char → List Char × List Char
  | '+' :: rest => (['+'], rest)
  | '-' :: rest => (['-'], rest)
  | text => ([], text)

def readExponent : List Char → Option (List Char × List Char)
  | c :: rest =>
    if c == 'e' || c == 'E' then
      let (sign, rest) := readExponentSign rest
      (readDigits rest).map fun (digits, rest) => (c :: sign ++ digits, rest)
    else some ([], c :: rest)
  | [] => some ([], [])

def readMinus : List Char → List Char × List Char
  | '-' :: rest => (['-'], rest)
  | text => ([], text)

def readNumber (text : List Char) : Option (JsonValue × List Char) :=
  let (minus, rest) := readMinus text
  match readIntegerPart rest with
  | none => none
  | some (integer, rest) =>
    match readFraction rest with
    | none => none
    | some (fraction, rest) =>
      (readExponent rest).map fun (exponent, rest) =>
        (.number (String.ofList (minus ++ integer ++ fraction ++ exponent)), rest)

def readLiteral (literal : List Char) (value : JsonValue) (text : List Char) :
    Option (JsonValue × List Char) :=
  if literal.isPrefixOf text then some (value, text.drop literal.length) else none

/-- The object of the given fields, which is `noText` if a key is. -/
def objectOf (fields : List (Option String × JsonValue)) : JsonValue :=
  match fields.mapM fun (key, value) => key.map (·, value) with
  | some fields => .object fields
  | none => .noText

mutual

/-- Reads a value at the beginning of a text.  Every level of nesting and every member takes one
step of `fuel`, and each of them takes a character of the text. -/
def readValue : Nat → List Char → Option (JsonValue × List Char)
  | 0, _ => none
  | fuel + 1, text =>
    match skipJsonBlanks text with
    | '"' :: rest =>
      (readString rest).map fun (content, rest) =>
        (match content with
          | some content => .string content
          | none => .noText, rest)
    | '[' :: rest =>
      match skipJsonBlanks rest with
      | ']' :: rest => some (.array [], rest)
      | rest => (readItems fuel rest).map fun (items, rest) => (.array items, rest)
    | '\x7b' :: rest =>
      match skipJsonBlanks rest with
      | '\x7d' :: rest => some (.object [], rest)
      | rest => (readFields fuel rest).map fun (fields, rest) => (objectOf fields, rest)
    | 'n' :: rest => readLiteral "ull".toList .null rest
    | 't' :: rest => readLiteral "rue".toList (.bool true) rest
    | 'f' :: rest => readLiteral "alse".toList (.bool false) rest
    | rest => readNumber rest

/-- The items of an array up to its closing bracket. -/
def readItems : Nat → List Char → Option (List JsonValue × List Char)
  | 0, _ => none
  | fuel + 1, text =>
    match readValue fuel text with
    | none => none
    | some (item, rest) =>
      match skipJsonBlanks rest with
      | ']' :: rest => some ([item], rest)
      | ',' :: rest => (readItems fuel rest).map fun (items, rest) => (item :: items, rest)
      | _ => none

/-- The fields of an object up to its closing brace. -/
def readFields : Nat → List Char → Option (List (Option String × JsonValue) × List Char)
  | 0, _ => none
  | fuel + 1, text =>
    match skipJsonBlanks text with
    | '"' :: rest =>
      match readString rest with
      | none => none
      | some (key, rest) =>
        match skipJsonBlanks rest with
        | ':' :: rest =>
          match readValue fuel rest with
          | none => none
          | some (value, rest) =>
            match skipJsonBlanks rest with
            | '\x7d' :: rest => some ([(key, value)], rest)
            | ',' :: rest =>
              (readFields fuel rest).map fun (fields, rest) => ((key, value) :: fields, rest)
            | _ => none
        | _ => none
    | _ => none

end

def readJson? (text : List Char) : Option JsonValue :=
  match readValue (2 * text.length + 1) text with
  | some (value, rest) => if (skipJsonBlanks rest).isEmpty then some value else none
  | none => none

/-! ## Writing -/

def hexDigitCharacter (n : Nat) : Char :=
  if n < 10 then Char.ofNat ('0'.toNat + n) else Char.ofNat ('a'.toNat + n - 10)

/-- Quotes, backslashes and the characters below the space are escaped, all others are kept. -/
def escapeCharacter (c : Char) : List Char :=
  match c with
  | '"' => ['\\', '"']
  | '\\' => ['\\', '\\']
  | '\x08' => ['\\', 'b']
  | '\x0c' => ['\\', 'f']
  | '\n' => ['\\', 'n']
  | '\r' => ['\\', 'r']
  | '\t' => ['\\', 't']
  | _ =>
    if c.toNat < 0x20 then
      ['\\', 'u', '0', '0', hexDigitCharacter (c.toNat / 16), hexDigitCharacter (c.toNat % 16)]
    else [c]

def quoteText (text : String) : List Char :=
  '"' :: text.toList.flatMap escapeCharacter ++ ['"']

def newLine (depth : Nat) : List Char :=
  '\n' :: List.replicate (2 * depth) ' '

mutual

/-- Writes a value `depth` levels inside the document, each member on a line of its own. -/
def writeValue (depth : Nat) : JsonValue → List Char
  | .null => "null".toList
  | .bool true => "true".toList
  | .bool false => "false".toList
  | .number literal => literal.toList
  | .string text => quoteText text
  | .array [] => ['[', ']']
  | .array (item :: items) =>
    '[' :: newLine (depth + 1) ++ writeValue (depth + 1) item ++ writeItems (depth + 1) items ++
      newLine depth ++ [']']
  | .object [] => ['\x7b', '\x7d']
  | .object ((key, value) :: fields) =>
    '\x7b' :: newLine (depth + 1) ++ quoteText key ++ [':', ' '] ++
      writeValue (depth + 1) value ++ writeFields (depth + 1) fields ++ newLine depth ++ ['\x7d']
  | .noText => "null".toList

/-- Writes the items of an array after its first one. -/
def writeItems (depth : Nat) : List JsonValue → List Char
  | [] => []
  | item :: items =>
    ',' :: newLine depth ++ writeValue depth item ++ writeItems depth items

/-- Writes the fields of an object after its first one. -/
def writeFields (depth : Nat) : List (String × JsonValue) → List Char
  | [] => []
  | (key, value) :: fields =>
    ',' :: newLine depth ++ quoteText key ++ [':', ' '] ++ writeValue depth value ++
      writeFields depth fields

end

def JsonValue.write (value : JsonValue) : String :=
  String.ofList (writeValue 0 value)

end KeyJoin
