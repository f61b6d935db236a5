/-!
# Bytes and the text they stand for

A text is written as bytes in UTF-8.  Strict decoding refuses bytes that are
not well formed.  Lenient decoding never fails: it puts one replacement
character for every maximal part that begins a character and is not continued
as it must be, and for every byte that begins none.
-/

namespace KeyJoin

abbrev Bytes := List UInt8

def encodeText (text : List Char) : Bytes :=
  text.flatMap String.utf8EncodeChar

def decodeStrictly? (bytes : Bytes) : Option String :=
  String.fromUTF8? ⟨bytes.toArray⟩

/-- What a decoder has read of the character it is in: its bits so far, the number of bytes
missing, and the bounds of the next byte. -/
structure PartialCharacter where
  bits : Nat
  missing : Nat
  low : Nat
  high : Nat

def replacementCharacter : Char := '\uFFFD'

/-- The text of a byte at the beginning of a character, and the character it leaves open. -/
def beginCharacter (byte : UInt8) : List Char × Option PartialCharacter :=
  let b := byte.toNat
  if b < 0x80 then ([Char.ofNat b], none)
  else if b < 0xC2 then ([replacementCharacter], none)
  else if b < 0xE0 then ([], some ⟨b - 0xC0, 1, 0x80, 0xBF⟩)
  else if b = 0xE0 then ([], some ⟨0, 2, 0xA0, 0xBF⟩)
  else if b = 0xED then ([], some ⟨0xD, 2, 0x80, 0x9F⟩)
  else if b < 0xF0 then ([], some ⟨b - 0xE0, 2, 0x80, 0xBF⟩)
  else if b = 0xF0 then ([], some ⟨0, 3, 0x90, 0xBF⟩)
  else if b < 0xF4 then ([], some ⟨b - 0xF0, 3, 0x80, 0xBF⟩)
  else if b = 0xF4 then ([], some ⟨4, 3, 0x80, 0x8F⟩)
  else ([replacementCharacter], none)

def decodeLenientlyFrom : Option PartialCharacter → Bytes → List Char
  | none, [] => []
  | some _, [] => [replacementCharacter]
  | none, byte :: bytes =>
    let (text, state) := beginCharacter byte
    text ++ decodeLenientlyFrom state bytes
  | some p, byte :: bytes =>
    let b := byte.toNat
    if p.low ≤ b ∧ b ≤ p.high then
      let bits := p.bits * 64 + b % 64
      if p.missing ≤ 1 then Char.ofNat bits :: decodeLenientlyFrom none bytes
      else decodeLenientlyFrom (some ⟨bits, p.missing - 1, 0x80, 0xBF⟩) bytes
    else
      let (text, state) := beginCharacter byte
      replacementCharacter :: text ++ decodeLenientlyFrom state bytes

def decodeLeniently (bytes : Bytes) : String :=
  String.ofList (decodeLenientlyFrom none bytes)

end KeyJoin
