/-!
# Similarity of two names

The Jaro-Winkler score of two texts lies between zero and one.  Two equal
characters match when their positions differ by at most half the longer length
less one, each position being used once and the earliest free one being taken.
The Jaro score is the mean of the matched share of either text and of the
share of matched characters that stand in the same order; a Jaro score above
0.7 is raised in proportion to the length of a common beginning of at most four
characters.
-/

namespace KeyJoin

/-- Takes the earliest free position between `low` and `high` that holds `c`. -/
def takeMatch (c : Char) (low high : Nat) : Nat → List (Char × Bool) → Option (List (Char × Bool))
  | _, [] => none
  | index, (d, free) :: rest =>
    if free && d == c && decide (low ≤ index ∧ index ≤ high) then some ((d, false) :: rest)
    else (takeMatch c low high (index + 1) rest).map ((d, free) :: ·)

/-- The characters of `a` that find a match, in order, and the positions of `b` afterwards. -/
def matchCharacters (range : Nat) :
    Nat → List Char → List (Char × Bool) → List Char × List (Char × Bool)
  | _, [], b => ([], b)
  | index, c :: a, b =>
    match takeMatch c (index - range) (index + range) 0 b with
    | some b =>
      let (matched, b) := matchCharacters range (index + 1) a b
      (c :: matched, b)
    | none => matchCharacters range (index + 1) a b

def countDifferent (a b : List Char) : Nat :=
  ((a.zip b).filter fun (c, d) => c != d).length

def jaroScore (a b : List Char) : Float :=
  if a.isEmpty && b.isEmpty then 1.0
  else if a.isEmpty || b.isEmpty then 0.0
  else
    let range := max a.length b.length / 2 - 1
    let (matchedA, rest) := matchCharacters range 0 a (b.map fun c => (c, true))
    let matchedB := (rest.filter fun (_, free) => !free).map (·.1)
    let matched := Float.ofNat matchedA.length
    let displaced := Float.ofNat (countDifferent matchedA matchedB / 2)
    if matchedA.isEmpty then 0.0
    else
      (matched / Float.ofNat a.length + matched / Float.ofNat b.length +
        (matched - displaced) / matched) / 3.0

def commonStart : List Char → List Char → Nat
  | c :: a, d :: b => if c == d then commonStart a b + 1 else 0
  | _, _ => 0

def jaroWinklerScore (a b : List Char) : Float :=
  let jaro := jaroScore a b
  if jaro > 0.7 then
    jaro + 0.1 * Float.ofNat (min (commonStart a b) 4) * (1.0 - jaro)
  else jaro

end KeyJoin
