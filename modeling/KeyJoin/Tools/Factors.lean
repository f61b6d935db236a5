import KeyJoin.Tools.Options

/-!
# Prime factors

A tool that prints numbers with their prime factors, the smallest first.  Small
factors are found by dividing; a number without any is tested for being prime
by its powers, and if it is not, a factor is found as the common divisor of the
number and a difference in a sequence that runs in a circle.
-/

namespace KeyJoin.Tools

open Tool

/-- A power modulo a number. -/
def powerModulo (modulus : Nat) : Nat → Nat → Nat → Nat → Nat
  | 0, _, _, result => result
  | fuel + 1, base, exponent, result =>
    if exponent = 0 then result
    else
      let result := if exponent % 2 = 1 then result * base % modulus else result
      powerModulo modulus fuel (base * base % modulus) (exponent / 2) result

/-- Takes out all factors of two. -/
def oddPart : Nat → Nat → Nat → Nat × Nat
  | 0, n, count => (n, count)
  | fuel + 1, n, count => if n % 2 = 0 then oddPart fuel (n / 2) (count + 1) else (n, count)

/-- Whether squaring leads to one below the number before it leads anywhere else. -/
def squaresTo (n : Nat) : Nat → Nat → Bool
  | 0, _ => false
  | fuel + 1, x => x == n - 1 || squaresTo n fuel (x * x % n)

/-- Whether an odd number behaves like a prime with a base. -/
def passesBase (n base : Nat) : Bool :=
  let size := n.log2 + 1
  let (odd, count) := oddPart size (n - 1) 0
  let x := powerModulo n size (base % n) odd 1
  base % n == 0 || x == 1 || squaresTo n count x

def testBases : List Nat :=
  [2, 3, 5, 7, 11, 13, 17, 19, 23, 29, 31, 37, 41, 43, 47, 53, 59, 61, 67, 71]

def isProbablyPrime (n : Nat) : Bool :=
  testBases.all (passesBase n)

/-- A divisor of a number that has one, found where a sequence meets itself. -/
def divisorFrom (n step : Nat) : Nat → Nat → Nat → Nat
  | 0, _, _ => n
  | fuel + 1, slow, fast =>
    let next := fun (x : Nat) => (x * x + step) % n
    let slow := next slow
    let fast := next (next fast)
    let divisor := Nat.gcd (if slow < fast then fast - slow else slow - fast) n
    if divisor = 1 then divisorFrom n step fuel slow fast else divisor

/-- A divisor that is neither one nor the number, with sequences of other steps if needed. -/
def properDivisor (n : Nat) : Nat → Nat → Nat
  | 0, _ => n
  | fuel + 1, step =>
    let divisor := divisorFrom n step 10000000 2 2
    if divisor = n then properDivisor n fuel (step + 1) else divisor

/-- The factors of a number without small ones, in any order. -/
def largeFactors : Nat → Nat → List Nat
  | 0, n => [n]
  | fuel + 1, n =>
    if n ≤ 1 then []
    else if isProbablyPrime n then [n]
    else
      let divisor := properDivisor n 20 1
      if divisor = n then [n] else largeFactors fuel divisor ++ largeFactors fuel (n / divisor)

/-- Takes out the factors up to a limit; gives them, the smallest first, and what is left. -/
def smallFactors : Nat → Nat → Nat → List Nat × Nat
  | 0, _, n => ([], n)
  | fuel + 1, divisor, n =>
    if n < divisor * divisor then (if 1 < n then ([n], 1) else ([], n))
    else if n % divisor = 0 then
      let (factors, rest) := smallFactors fuel divisor (n / divisor)
      (divisor :: factors, rest)
    else smallFactors fuel (if divisor = 2 then 3 else divisor + 2) n

/-- The prime factors of a number, the smallest first. -/
def primeFactors (n : Nat) : List Nat :=
  if n ≤ 1 then []
  else
    let (factors, rest) := smallFactors 6000 2 n
    factors ++ (largeFactors 200 rest).mergeSort (fun a b => decide (a ≤ b))

/-- Factors with the number of times that they occur. -/
def countedFactors : List Nat → List (Nat × Nat)
  | [] => []
  | n :: rest =>
    match countedFactors rest with
    | (m, count) :: others =>
      if m = n then (n, count + 1) :: others else (n, 1) :: (m, count) :: others
    | [] => [(n, 1)]

def putFactors (showsPowers : Bool) (text : RawText) : Tool Unit := do
  let body := match text with
    | '+' :: rest => rest
    | _ => text
  match natural? body with
  | none =>
    writeMessage (quoted text ++ raw " is not a valid positive integer")
    setStatus 1
  | some n =>
    let factors := primeFactors n
    let shown :=
      if showsPowers then
        (countedFactors factors).flatMap fun (factor, count) =>
          ' ' :: naturalText factor ++
            if count = 1 then [] else '^' :: naturalText count
      else factors.flatMap fun factor => ' ' :: naturalText factor
    putLine (naturalText n ++ ':' :: shown)

def runFactor (arguments : List RawText) : Tool Unit := do
  let options ← readOptions 1 [{ key := "h", letters := "h", name := "exponents" }] arguments
  let words ←
    if options.operands.isEmpty then do
      let text ← readTogether []
      pure ((text.splitOnP isSpaceByte).filter (!·.isEmpty))
    else pure options.operands
  for word in words do
    putFactors (options.has "h") (word.dropWhile isSpaceByte)

end KeyJoin.Tools
