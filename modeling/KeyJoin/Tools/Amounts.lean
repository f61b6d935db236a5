import KeyJoin.Tools.Tool

/-!
# Amounts

Many options take an amount: an integer with a unit behind it that multiplies
it.  Amounts are bounded by the words that hold them.  What can be wrong with
one is told apart: it is no number, its unit is not known, or it is too large.
-/

namespace KeyJoin.Tools

open Tool

/-- What is wrong with an amount. -/
inductive AmountFault
  | notNumber
  | unknownUnit
  | tooLarge
  deriving DecidableEq, Repr

/-- Which amounts are taken: the base of the digits, nothing for one told by what is written in
front, the units, the bounds, and whether a sign may say that it is below zero. -/
structure AmountRule where
  base : Option Nat := some 10
  units : String := ""
  isSigned : Bool := false
  most : Int := twoTo 64 - 1

/-- The power of a thousand or of 1024 that a unit stands for. -/
def unitPower? : Char → Option Nat
  | 'k' | 'K' => some 1
  | 'm' | 'M' => some 2
  | 'g' | 'G' => some 3
  | 't' | 'T' => some 4
  | 'P' => some 5
  | 'E' => some 6
  | 'Z' => some 7
  | 'Y' => some 8
  | 'R' => some 9
  | 'Q' => some 10
  | _ => none

/-- What a unit multiplies by, and the text behind it.  Where a zero is among the units, a second
letter may say that powers of a thousand are meant, or two more those of 1024. -/
def readUnit? (units : String) (text : RawText) : Option (Nat × RawText) :=
  match text with
  | [] => some (1, [])
  | c :: rest =>
    if !units.toList.contains c then none
    else
      match c, unitPower? c with
      | 'b', _ => some (512, rest)
      | 'B', _ => some (1024, rest)
      | 'c', _ => some (1, rest)
      | 'w', _ => some (2, rest)
      | _, none => none
      | _, some power =>
        let hasSystems := units.toList.contains '0'
        match rest with
        | 'i' :: 'B' :: rest' =>
          if hasSystems then some (Nat.pow 1024 power, rest') else some (Nat.pow 1024 power, rest)
        | 'B' :: rest' | 'D' :: rest' =>
          if hasSystems then some (Nat.pow 1000 power, rest') else some (Nat.pow 1024 power, rest)
        | _ => some (Nat.pow 1024 power, rest)

/-- The base and the digits of a number that may tell its base by what it begins with. -/
def readBase (base : Option Nat) (text : RawText) : Nat × RawText :=
  match base, text with
  | some base, text => (base, text)
  | none, '0' :: x :: c :: rest =>
    if (x == 'x' || x == 'X') && isHexDigit c then (16, c :: rest) else (8, text)
  | none, '0' :: _ => (8, text)
  | none, _ => (10, text)

/-- An amount and what follows it, or the fault of the number. -/
def readAmountStart (rule : AmountRule) (text : RawText) : Except AmountFault (Int × RawText) :=
  let text := text.dropWhile isSpaceByte
  let (isNegative, body) :=
    match text with
    | '-' :: rest => (true, rest)
    | '+' :: rest => (false, rest)
    | _ => (false, text)
  if isNegative && !rule.isSigned then .error .notNumber
  else
    let (base, body) := readBase rule.base body
    let digits := body.takeWhile fun c => digitValue c < base
    let rest := body.drop digits.length
    let isUnitAlone := digits.isEmpty && !isNegative &&
      rest.head?.any fun c => rule.units.toList.contains c && (body == text || text.head? != some '+')
    if digits.isEmpty && !isUnitAlone then .error .notNumber
    else
      let n : Int := if digits.isEmpty then 1 else readInBase base digits
      .ok (if isNegative then -n else n, rest)

/-- Reads an amount. -/
def readAmount (rule : AmountRule) (text : RawText) : Except AmountFault Int := do
  let (n, rest) ← readAmountStart rule text
  match readUnit? rule.units rest with
  | none => throw .unknownUnit
  | some (factor, rest) =>
    if !rest.isEmpty then throw .unknownUnit
    let least : Int := if rule.isSigned then -rule.most - 1 else 0
    let amount := n * factor
    if rule.most < amount || amount < least then throw .tooLarge
    return amount

/-- An amount within bounds; what is wrong with one is said behind a message. -/
def boundedAmount (status : Nat) (rule : AmountRule) (least most : Int) (message : String)
    (text : RawText) : Tool Int := do
  let refuse := fun (reason : String) =>
    fail status (raw message ++ raw ": " ++ quoted text ++ raw reason)
  let tooLarge := ": Value too large for defined data type"
  match readAmount rule text with
  | .ok amount =>
    if least ≤ amount && amount ≤ most then return amount
    refuse (if 1073741823 < amount then tooLarge else ": Numerical result out of range")
  | .error .tooLarge => refuse tooLarge
  | .error _ => refuse ""

/-- The units of most amounts of bytes. -/
def byteUnits : String := "bkKmMGTPEZYRQ0"

/-- An amount of bytes, if a text is one. -/
def sizedNumber? (text : RawText) (base : Option Nat) : Option Nat :=
  match readAmount { base := base, units := byteUnits } text with
  | .ok n => some n.toNat
  | .error _ => none

/-- A natural number without a unit. -/
def naturalRule : AmountRule := {}

def integerRule : AmountRule :=
  { isSigned := true, most := twoTo 63 - 1 }

/-- An amount of bytes or lines. -/
def countAmount (message : String) (text : RawText) : Tool Nat := do
  return (← boundedAmount 1 { units := byteUnits } 0 (twoTo 64 - 1) message text).toNat

end KeyJoin.Tools
