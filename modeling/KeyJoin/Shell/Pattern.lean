import KeyJoin.Host.RawText

/-!
# Patterns

A pattern is matched against a whole text.  A star stands for any text, a
question mark for one character, and a bracket expression for one character of
a set or outside it; a character after a backslash stands for itself.  Matching
keeps the set of places in the pattern that the text read so far can lead to.
-/

namespace KeyJoin.Shell

inductive PatternItem
  | exactly (c : Char)
  | anyOne
  | anyRun
  | oneOf (negated : Bool) (ranges : List (Char × Char))
  deriving DecidableEq, Repr

def characterClass? : String → Option (List (Char × Char))
  | "alpha" => some [('A', 'Z'), ('a', 'z')]
  | "upper" => some [('A', 'Z')]
  | "lower" => some [('a', 'z')]
  | "digit" => some [('0', '9')]
  | "xdigit" => some [('0', '9'), ('A', 'F'), ('a', 'f')]
  | "alnum" => some [('0', '9'), ('A', 'Z'), ('a', 'z')]
  | "blank" => some [('\t', '\t'), (' ', ' ')]
  | "space" => some [('\t', '\x0d'), (' ', ' ')]
  | "punct" => some [('!', '/'), (':', '@'), ('[', '\x60'), ('\x7b', '~')]
  | "print" => some [(' ', '~')]
  | "graph" => some [('!', '~')]
  | "cntrl" => some [('\x00', '\x1f'), ('\x7f', '\x7f')]
  | _ => none

def inCharacterRanges (ranges : List (Char × Char)) (c : Char) : Bool :=
  ranges.any fun (first, last) => decide (first ≤ c ∧ c ≤ last)

def PatternItem.accepts (c : Char) : PatternItem → Bool
  | exactly d => c == d
  | anyOne | anyRun => true
  | oneOf negated ranges => inCharacterRanges ranges c != negated

/-- The named class at the front of a text after its opening bracket, and what follows it. -/
def namedClass? (text : RawText) : Option (List (Char × Char) × RawText) :=
  match text with
  | ':' :: rest =>
    let name := rest.takeWhile Char.isAlpha
    match characterClass? (String.ofList name), rest.drop name.length with
    | some ranges, ':' :: ']' :: rest => some (ranges, rest)
    | _, _ => none
  | _ => none

/-- The members of a bracket expression up to its closing bracket, and what follows.  A closing
bracket that comes first is a member. -/
def bracketMembers : Nat → Bool → RawText → Option (List (Char × Char) × RawText)
  | 0, _, _ => none
  | _, _, [] => none
  | fuel + 1, isFirst, c :: rest =>
    if c == ']' && !isFirst then some ([], rest)
    else
      match if c == '[' then namedClass? rest else none with
      | some (ranges, rest) =>
        (bracketMembers fuel false rest).map fun (members, rest) => (ranges ++ members, rest)
      | none =>
        let (c, rest) :=
          match c, rest with
          | '\\', d :: rest => (d, rest)
          | _, _ => (c, rest)
        let range :=
          match rest with
          | '-' :: '\\' :: last :: after => some (last, after)
          | '-' :: last :: after => if last == ']' then none else some (last, after)
          | _ => none
        match range with
        | some (last, after) =>
          (bracketMembers fuel false after).map fun (members, rest) => ((c, last) :: members, rest)
        | none =>
          (bracketMembers fuel false rest).map fun (members, rest) => ((c, c) :: members, rest)

def bracketItem? (text : RawText) : Option (PatternItem × RawText) :=
  let (negated, rest) :=
    match text with
    | '!' :: rest => (true, rest)
    | _ => (false, text)
  (bracketMembers (rest.length + 1) true rest).map fun (members, rest) =>
    (.oneOf negated members, rest)

def patternItems : Nat → RawText → List PatternItem
  | 0, _ => []
  | _, [] => []
  | fuel + 1, c :: rest =>
    match c, rest with
    | '\\', d :: rest => .exactly d :: patternItems fuel rest
    | '*', rest => .anyRun :: patternItems fuel rest
    | '?', rest => .anyOne :: patternItems fuel rest
    | '[', rest =>
      match bracketItem? rest with
      | some (item, rest) => item :: patternItems fuel rest
      | none => .exactly '[' :: patternItems fuel rest
    | c, rest => .exactly c :: patternItems fuel rest

def patternOf (text : RawText) : List PatternItem :=
  patternItems text.length text

/-! ## Matching -/

/-- Marks also the places behind stars that stand at a marked place. -/
def passStars : List PatternItem → Bool → List Bool → List Bool
  | item :: items, carried, here :: marks =>
    let here := here || carried
    here :: passStars items (here && item == .anyRun) marks
  | [], carried, here :: _ => [here || carried]
  | _, _, [] => []

/-- The places after a character, given those before it; `carried` tells whether the item before
has just taken the character. -/
def takeCharacter (c : Char) : List PatternItem → Bool → List Bool → List Bool
  | item :: items, carried, here :: marks =>
    let stays := here && item == .anyRun
    (carried || stays) :: takeCharacter c items (here && item != .anyRun && item.accepts c) marks
  | [], carried, _ :: _ => [carried]
  | _, _, [] => []

def startMarks (items : List PatternItem) : List Bool :=
  passStars items false (true :: List.replicate items.length false)

def nextMarks (items : List PatternItem) (marks : List Bool) (c : Char) : List Bool :=
  passStars items false (takeCharacter c items false marks)

def isAtEnd (marks : List Bool) : Bool :=
  marks.getLast?.getD false

def matchesPattern (items : List PatternItem) (text : RawText) : Bool :=
  isAtEnd (text.foldl (nextMarks items) (startMarks items))

/-- The lengths of the beginnings of a text that match, in ascending order. -/
def matchingLengths (items : List PatternItem) : Nat → List Bool → RawText → List Nat
  | n, marks, text =>
    let here := if isAtEnd marks then [n] else []
    match text with
    | [] => here
    | c :: text => here ++ matchingLengths items (n + 1) (nextMarks items marks c) text

/-- The text without a part at its start that matches: the longest such part or the shortest. -/
def dropMatchingStart (longest : Bool) (items : List PatternItem) (text : RawText) : RawText :=
  let lengths := matchingLengths items 0 (startMarks items) text
  text.drop ((if longest then lengths.getLast? else lengths.head?).getD 0)

def dropMatchingEnd (longest : Bool) (items : List PatternItem) (text : RawText) : RawText :=
  (dropMatchingStart longest items.reverse text.reverse).reverse

end KeyJoin.Shell
