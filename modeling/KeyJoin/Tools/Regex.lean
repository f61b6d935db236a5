import KeyJoin.Host.RawText

/-!
# Regular expressions

A regular expression is matched against a part of a text.  Of all matches the
one that starts first is taken, and of those the longest; within it the first
choice and the largest number of repetitions come before the others.  The
places where an expression can end are computed for a set of places where it
may start, so that no choice has to be taken back.  Only an expression that
asks for the text of a group again is matched by trial.
-/

namespace KeyJoin

structure CharacterSet where
  isNegated : Bool := false
  ranges : List (Char × Char)
  ignoresCase : Bool := false
  deriving Repr

namespace CharacterSet

def holds (set : CharacterSet) (c : Char) : Bool :=
  set.ranges.any fun (first, last) => decide (first ≤ c ∧ c ≤ last)

def accepts (set : CharacterSet) (c : Char) : Bool :=
  (set.holds c || (set.ignoresCase && (set.holds c.toLower || set.holds c.toUpper)))
    != set.isNegated

def single (ignoresCase : Bool) (c : Char) : CharacterSet :=
  { ranges := [(c, c)], ignoresCase := ignoresCase }

def all : CharacterSet :=
  { ranges := [], isNegated := true }

end CharacterSet

/-- A place between two characters. -/
inductive TextEdge
  | lineStart
  | lineEnd
  | textStart
  | textEnd
  | word
  | inWord
  | wordStart
  | wordEnd
  deriving DecidableEq, Repr

inductive Regex
  | empty
  | one (set : CharacterSet)
  | edge (kind : TextEdge)
  | sequence (first rest : Regex)
  | choice (first second : Regex)
  | repeated (body : Regex) (least : Nat) (most : Option Nat)
  | group (number : Nat) (body : Regex)
  | back (number : Nat)
  deriving Repr

/-- A text that is searched; with `isLinewise` lines within it start and end as the text does, and
`startsLine` says whether its beginning counts as one. -/
structure Subject where
  text : Array Char
  isLinewise : Bool := false
  startsLine : Bool := true

def Subject.ofText (text : RawText) : Subject :=
  { text := text.toArray }

namespace Subject

def isWordAt (subject : Subject) (place : Nat) : Bool :=
  match subject.text[place]? with
  | some c => isNameCharacter c
  | none => false

def isLineFeedAt (subject : Subject) (place : Nat) : Bool :=
  subject.text[place]? == some '\n'

/-- Whether an edge lies in front of a place. -/
def hasEdge (subject : Subject) (place : Nat) (edge : TextEdge) : Bool :=
  let before := place != 0 && subject.isWordAt (place - 1)
  let after := subject.isWordAt place
  match edge with
  | .lineStart =>
    (place == 0 && subject.startsLine) ||
      (subject.isLinewise && place != 0 && subject.isLineFeedAt (place - 1))
  | .lineEnd => place == subject.text.size || (subject.isLinewise && subject.isLineFeedAt place)
  | .textStart => place == 0
  | .textEnd => place == subject.text.size
  | .word => before != after
  | .inWord => before == after
  | .wordStart => !before && after
  | .wordEnd => before && !after

end Subject

/-- The union of two ascending lists. -/
def mergePlaces : List Nat → List Nat → List Nat
  | [], places => places
  | places, [] => places
  | a :: as, b :: bs =>
    if a < b then a :: mergePlaces as (b :: bs)
    else if b < a then b :: mergePlaces (a :: as) bs
    else a :: mergePlaces as bs
termination_by as bs => as.length + bs.length

/-- What an ascending list has and another one has not. -/
def placesWithout : List Nat → List Nat → List Nat
  | [], _ => []
  | places, [] => places
  | a :: as, b :: bs =>
    if a < b then a :: placesWithout as (b :: bs)
    else if b < a then placesWithout (a :: as) bs
    else placesWithout as bs
termination_by as bs => as.length + bs.length

/-- All places that steps lead to, the beginnings among them; `newest` are those not stepped from
yet. -/
def reachablePlaces (step : List Nat → List Nat) : Nat → List Nat → List Nat → List Nat
  | 0, reached, _ => reached
  | fuel + 1, reached, newest =>
    if newest.isEmpty then reached
    else
      let next := placesWithout (step newest) reached
      reachablePlaces step fuel (mergePlaces reached next) next

/-- The places that at most a number of steps lead to. -/
def placesWithin (step : List Nat → List Nat) : Nat → List Nat → List Nat → List Nat
  | 0, reached, _ => reached
  | fuel + 1, reached, newest =>
    if newest.isEmpty then reached
    else
      let next := placesWithout (step newest) reached
      placesWithin step fuel (mergePlaces reached next) next

def repeatStep (step : List Nat → List Nat) : Nat → List Nat → List Nat
  | 0, places => places
  | n + 1, places => if places.isEmpty then [] else repeatStep step n (step places)

namespace Regex

/-- The places where an expression can end if it starts at one of some places; all lists ascend. -/
def ends (subject : Subject) : Regex → List Nat → List Nat
  | empty, places => places
  | one set, places =>
    places.filterMap fun place =>
      match subject.text[place]? with
      | some c => if set.accepts c then some (place + 1) else none
      | none => none
  | edge kind, places => places.filter fun place => subject.hasEdge place kind
  | sequence first rest, places =>
    let places := first.ends subject places
    if places.isEmpty then [] else rest.ends subject places
  | choice first second, places => mergePlaces (first.ends subject places) (second.ends subject places)
  | repeated body least most, places =>
    let step := body.ends subject
    let places := repeatStep step least places
    match most with
    | none => reachablePlaces step (subject.text.size + 2) places places
    | some most => placesWithin step (most - least) places places
  | group _ body, places => body.ends subject places
  | back _, _ => []

/-- All places that steps lead to from a place, those that more steps lead to first.  What has been
found stands backwards. -/
def explorePlaces (step : List Nat → List Nat) :
    Nat → Nat → List Nat × List Nat → List Nat × List Nat
  | 0, _, found => found
  | fuel + 1, place, (visited, out) =>
    if visited.contains place then (visited, out)
    else
      let (visited, out) := (step [place]).foldl
        (fun found next => explorePlaces step fuel next found) (place :: visited, out)
      (visited, place :: out)

/-- The places that at most a number of steps lead to, those that more steps lead to first. -/
def placesByChoice (step : List Nat → List Nat) : Nat → List Nat → List Nat
  | 0, places => places
  | n + 1, places =>
    (places.flatMap fun place => placesByChoice step n (step [place]) ++ [place]).eraseDups

/-- The places where an expression can end in the order of its choices: what the first choice leads
to comes first, and more repetitions come before fewer. -/
def orderedEnds (subject : Subject) : Regex → List Nat → List Nat
  | empty, places => places
  | one set, places =>
    places.filterMap fun place =>
      match subject.text[place]? with
      | some c => if set.accepts c then some (place + 1) else none
      | none => none
  | edge kind, places => places.filter fun place => subject.hasEdge place kind
  | sequence first rest, places =>
    let places := first.orderedEnds subject places
    if places.isEmpty then [] else rest.orderedEnds subject places
  | choice first second, places =>
    (places.flatMap fun place =>
      first.orderedEnds subject [place] ++ second.orderedEnds subject [place]).eraseDups
  | repeated body least most, places =>
    let step := body.orderedEnds subject
    let places := repeatStep step least places
    match most with
    | none =>
      let (_, out) := places.foldl
        (fun found place => explorePlaces step (subject.text.size + 2) place found) ([], [])
      out.reverse
    | some most => placesByChoice step (most - least) places
  | group _ body, places => body.orderedEnds subject places
  | back _, _ => []

/-- The parts of a text that groups took. -/
abbrev Groups := List (Nat × Nat × Nat)

/-- What groups take when the turns of a repetition take the part between two places.  A turn goes as
far as the turns after it allow, and takes at least one character unless nothing is left. -/
def captureTurns (turnEnds : Nat → List Nat) (restFits : Nat → Nat → Bool)
    (captureBody : Nat → Nat → Groups → Groups) (least last : Nat) :
    Nat → Nat → Nat → Groups → Groups
  | 0, _, _, groups => groups
  | fuel + 1, done, i, groups =>
    if i == last then (if done < least then captureBody i last groups else groups)
    else
      match (turnEnds i).find? fun k => decide (i < k) && k ≤ last && restFits (done + 1) k with
      | some k =>
        captureTurns turnEnds restFits captureBody least last fuel (done + 1) k
          (captureBody i k groups)
      | none => groups

/-- What the groups of an expression take when it takes the part between two places. -/
def capture (subject : Subject) : Regex → Nat → Nat → Groups → Groups
  | sequence first rest, i, j, groups =>
    let fits := fun (k : Nat) => k ≤ j && (rest.ends subject [k]).contains j
    match (first.orderedEnds subject [i]).find? fits with
    | some k => rest.capture subject k j (first.capture subject i k groups)
    | none => groups
  | choice first second, i, j, groups =>
    if (first.ends subject [i]).contains j then first.capture subject i j groups
    else second.capture subject i j groups
  | repeated body least most, i, j, groups =>
    captureTurns (fun i => body.orderedEnds subject [i])
      (fun done k =>
        ((repeated body (least - done) (most.map (· - done))).ends subject [k]).contains j)
      (body.capture subject) least j (j - i + 1) 0 i groups
  | group number body, i, j, groups =>
    body.capture subject i j ((number, i, j) :: groups.filter fun entry => entry.1 != number)
  | _, _, _, groups => groups

def hasGroups : Regex → Bool
  | empty | one _ | edge _ => false
  | sequence first rest => first.hasGroups || rest.hasGroups
  | choice first second => first.hasGroups || second.hasGroups
  | repeated body _ _ => body.hasGroups
  | group _ _ | back _ => true

/-- Whether an expression asks for the text of a group again. -/
def looksBack : Regex → Bool
  | empty | one _ | edge _ => false
  | sequence first rest => first.looksBack || rest.looksBack
  | choice first second => first.looksBack || second.looksBack
  | repeated body _ _ | group _ body => body.looksBack
  | back _ => true

/-- Tries the turns of a repetition, more of them before fewer. -/
def attemptTurns
    (attemptBody : Nat → Groups → (Nat → Groups → Option Groups) → Option Groups)
    (least : Nat) (most : Option Nat) (next : Nat → Groups → Option Groups) :
    Nat → Nat → Nat → Groups → Option Groups
  | 0, _, _, _ => none
  | fuel + 1, done, i, groups =>
    let further :=
      if most.any (· ≤ done) then none
      else
        attemptBody i groups fun j groups =>
          if i < j || done < least then
            attemptTurns attemptBody least most next fuel (done + 1) j groups
          else none
    further.or (if least ≤ done then next i groups else none)

/-- Tries all ways to match from a place, and takes the first that `next` goes on from. -/
def attempt (subject : Subject) :
    Regex → Nat → Groups → (Nat → Groups → Option Groups) → Option Groups
  | empty, i, groups, next => next i groups
  | one set, i, groups, next =>
    match subject.text[i]? with
    | some c => if set.accepts c then next (i + 1) groups else none
    | none => none
  | edge kind, i, groups, next => if subject.hasEdge i kind then next i groups else none
  | sequence first rest, i, groups, next =>
    first.attempt subject i groups fun j groups => rest.attempt subject j groups next
  | choice first second, i, groups, next =>
    (first.attempt subject i groups next).or (second.attempt subject i groups next)
  | repeated body least most, i, groups, next =>
    attemptTurns (body.attempt subject) least most next (subject.text.size + least + 2) 0 i groups
  | group number body, i, groups, next =>
    body.attempt subject i groups fun j groups =>
      next j ((number, i, j) :: groups.filter fun entry => entry.1 != number)
  | back number, i, groups, next =>
    match groups.lookup number with
    | none => none
    | some (first, last) =>
      let length := last - first
      if i + length ≤ subject.text.size &&
          subject.text.extract first last == subject.text.extract i (i + length) then
        next (i + length) groups
      else none

end Regex

/-- A part of a text that an expression matches, with the parts of its groups. -/
structure RegexMatch where
  first : Nat
  last : Nat
  groups : Regex.Groups

namespace Regex

def groupsAt (regex : Regex) (subject : Subject) (i j : Nat) : Groups :=
  if regex.hasGroups then regex.capture subject i j [] else []

/-- The matches that start at a place, the longest first. -/
def matchesAt (regex : Regex) (subject : Subject) (i : Nat) : List RegexMatch :=
  if regex.looksBack then
    (List.range (subject.text.size + 1 - i)).reverse.filterMap fun length =>
      (regex.attempt subject i [] fun j groups => if j = i + length then some groups else none).map
        fun groups => ⟨i, i + length, groups⟩
  else
    (regex.ends subject [i]).reverse.map fun j => ⟨i, j, regex.groupsAt subject i j⟩

/-- The longest match that starts at a place. -/
def matchAt? (regex : Regex) (subject : Subject) (i : Nat) : Option RegexMatch :=
  if regex.looksBack then (regex.matchesAt subject i).head?
  else (regex.ends subject [i]).getLast?.map fun j => ⟨i, j, regex.groupsAt subject i j⟩

/-- The first and longest match that starts at a place or after it. -/
def findFrom? (regex : Regex) (subject : Subject) (i : Nat) : Option RegexMatch :=
  (List.range' i (subject.text.size + 1 - i)).findSome? (regex.matchAt? subject)

def occursIn (regex : Regex) (text : RawText) : Bool :=
  (regex.findFrom? (.ofText text) 0).isSome

end Regex

/-- The part of a text that a group took; the group without a number is the whole match. -/
def RegexMatch.groupText (found : RegexMatch) (subject : Subject) (number : Nat) : RawText :=
  if number = 0 then (subject.text.extract found.first found.last).toList
  else
    match found.groups.lookup number with
    | some (first, last) => (subject.text.extract first last).toList
    | none => []

end KeyJoin
