import KeyJoin.Host.RawText

/-!
# Edit scripts

Two sequences of lines are compared by the numbers of the classes that their
lines belong to.  A shortest way from one to the other is found from both ends
at once: for every diagonal the farthest point that can be reached at a cost is
kept, and where the two searches meet the problem is cut in two.  Lines that
occur only on one side are left out before.  At last every run of changed lines
is moved as far down as it can be, or to where the other side changes too.
-/

namespace KeyJoin.Tools.Differences

/-- Lines that are removed at one place and lines that are put there. -/
structure Change where
  oldStart : Nat
  oldCount : Nat
  newStart : Nat
  newCount : Nat
  deriving DecidableEq, Repr

def Change.oldEnd (change : Change) : Nat :=
  change.oldStart + change.oldCount

def Change.newEnd (change : Change) : Nat :=
  change.newStart + change.newCount

/-- Two sequences of classes. -/
structure SequencePair where
  old : Array Nat
  new : Array Nat

namespace SequencePair

variable (pair : SequencePair)

def agree (x y : Int) : Bool :=
  pair.old.getD x.toNat 0 == pair.new.getD y.toNat 0

/-! ## Meeting in the middle -/

/-- A part of both sequences. -/
structure Region where
  x : Int
  y : Int
  xEnd : Int
  yEnd : Int

/-- What has been reached from one corner: a point on each diagonal from `low` to `high`.  Diagonals
are counted from `origin`. -/
structure Frontier where
  points : Array Int
  origin : Int
  low : Int
  high : Int

namespace Frontier

def point (frontier : Frontier) (diagonal : Int) : Int :=
  frontier.points.getD (diagonal + frontier.origin).toNat 0

def setPoint (frontier : Frontier) (diagonal x : Int) : Frontier :=
  { frontier with points := frontier.points.setIfInBounds (diagonal + frontier.origin).toNat x }

/-- Takes in one more diagonal on each side, or leaves one out where there are no more; `outside`
stands for a point that has not been reached. -/
def widen (frontier : Frontier) (least greatest outside : Int) : Frontier :=
  let frontier :=
    if least < frontier.low then
      { frontier.setPoint (frontier.low - 2) outside with low := frontier.low - 1 }
    else { frontier with low := frontier.low + 1 }
  if frontier.high < greatest then
    { frontier.setPoint (frontier.high + 2) outside with high := frontier.high + 1 }
  else { frontier with high := frontier.high - 1 }

/-- Every second diagonal, from the highest on. -/
def diagonals (frontier : Frontier) : List Int :=
  if frontier.high < frontier.low then []
  else
    (List.range ((frontier.high - frontier.low).toNat / 2 + 1)).map fun (n : Nat) =>
      frontier.high - 2 * (n : Int)

def covers (frontier : Frontier) (diagonal : Int) : Bool :=
  decide (frontier.low ≤ diagonal ∧ diagonal ≤ frontier.high)

end Frontier

/-- Follows equal lines down a diagonal. -/
def slideDown (region : Region) : Nat → Int → Int → Int
  | 0, x, _ => x
  | fuel + 1, x, y =>
    if x < region.xEnd && y < region.yEnd && pair.agree x y then
      slideDown region fuel (x + 1) (y + 1)
    else x

/-- Follows equal lines up a diagonal. -/
def slideUp (region : Region) : Nat → Int → Int → Int
  | 0, x, _ => x
  | fuel + 1, x, y =>
    if region.x < x && region.y < y && pair.agree (x - 1) (y - 1) then
      slideUp region fuel (x - 1) (y - 1)
    else x

/-- Goes on from the start on all diagonals; a point that the search from the end has reached ends
it. -/
def advanceDown (region : Region) (fuel : Nat) (isOdd : Bool) (other : Frontier) :
    List Int → Frontier → Frontier × Option (Int × Int)
  | [], frontier => (frontier, none)
  | d :: ds, frontier =>
    let low := frontier.point (d - 1)
    let high := frontier.point (d + 1)
    let first := if low < high then high else low + 1
    let x := pair.slideDown region fuel first (first - d)
    let frontier := frontier.setPoint d x
    if isOdd && other.covers d && decide (other.point d ≤ x) then (frontier, some (x, x - d))
    else advanceDown region fuel isOdd other ds frontier

/-- Goes on from the end on all diagonals. -/
def advanceUp (region : Region) (fuel : Nat) (isOdd : Bool) (other : Frontier) :
    List Int → Frontier → Frontier × Option (Int × Int)
  | [], frontier => (frontier, none)
  | d :: ds, frontier =>
    let low := frontier.point (d - 1)
    let high := frontier.point (d + 1)
    let first := if low < high then low else high - 1
    let x := pair.slideUp region fuel first (first - d)
    let frontier := frontier.setPoint d x
    if !isOdd && other.covers d && decide (x ≤ other.point d) then (frontier, some (x, x - d))
    else advanceUp region fuel isOdd other ds frontier

/-- A point that no line of the sequences has. -/
def farOutside (region : Region) : Int :=
  region.xEnd + region.yEnd + 2

/-- Searches from both corners with growing cost. -/
def meet (region : Region) (length : Nat) (isOdd : Bool) :
    Nat → Frontier → Frontier → Int × Int
  | 0, _, _ => (region.x, region.y)
  | fuel + 1, down, up =>
    let least := region.x - region.yEnd
    let greatest := region.xEnd - region.y
    let down := down.widen least greatest (-1)
    match pair.advanceDown region length isOdd up down.diagonals down with
    | (_, some point) => point
    | (down, none) =>
      let up := up.widen least greatest (farOutside region)
      match pair.advanceUp region length isOdd down up.diagonals up with
      | (_, some point) => point
      | (up, none) => meet region length isOdd fuel down up

def middle (region : Region) : Int × Int :=
  let length := (region.xEnd - region.x + (region.yEnd - region.y)).toNat
  let first := region.x - region.y
  let last := region.xEnd - region.yEnd
  let origin := region.yEnd - region.x + 2
  let start := fun (diagonal x : Int) =>
    Frontier.setPoint
      { points := Array.replicate (length + 5) 0, origin := origin, low := diagonal
        high := diagonal }
      diagonal x
  pair.meet region (length + 1) ((first - last) % 2 != 0) (length + 1) (start first region.x)
    (start last region.xEnd)

/-! ## Changed lines -/

/-- Which lines of each side are changed. -/
structure Marks where
  old : Array Bool
  new : Array Bool

def markRange (flags : Array Bool) (first last : Int) : Array Bool :=
  (List.range (last - first).toNat).foldl
    (fun flags n => flags.setIfInBounds (first.toNat + n) true) flags

/-- Marks the changed lines of a region. -/
def markRegion : Nat → Region → Marks → Marks
  | 0, _, marks => marks
  | fuel + 1, region, marks =>
    let length := (region.xEnd - region.x).toNat + 1
    let x := pair.slideDown region length region.x region.y
    let region := { region with x := x, y := region.y + (x - region.x) }
    let xEnd := pair.slideUp region length region.xEnd region.yEnd
    let region := { region with xEnd := xEnd, yEnd := region.yEnd - (region.xEnd - xEnd) }
    if region.x = region.xEnd then
      { marks with new := markRange marks.new region.y region.yEnd }
    else if region.y = region.yEnd then
      { marks with old := markRange marks.old region.x region.xEnd }
    else
      let (x, y) := pair.middle region
      let marks := markRegion fuel { region with xEnd := x, yEnd := y } marks
      markRegion fuel { region with x := x, y := y } marks

def changedLines : Marks :=
  let n := pair.old.size
  let m := pair.new.size
  pair.markRegion (n + m + 1) ⟨0, 0, n, m⟩ ⟨Array.replicate n false, Array.replicate m false⟩

end SequencePair

/-! ## Lines left out before -/

/-- What is to be done with a line: whether it is left out, or only if it stands among such. -/
inductive LineUse
  | kept
  | dropped
  | doubtful
  deriving DecidableEq

/-- How many lines on the other side make a line doubtful. -/
def manyLines (count : Nat) : Nat :=
  go count (count / 256) 5
where
  go : Nat → Nat → Nat → Nat
    | 0, _, many => many
    | fuel + 1, rest, many => if rest = 0 then many else go fuel (rest / 4) (2 * many)

/-- How many doubtful lines in a row are kept within a run of a length. -/
def keptRowLength (length : Nat) : Nat :=
  go length (length / 16) 1 + 1
where
  go : Nat → Nat → Nat → Nat
    | 0, _, least => least
    | fuel + 1, rest, least => if rest = 0 then least else go fuel (rest / 4) (2 * least)

def keepDoubtful (run : List LineUse) : List LineUse :=
  run.map fun use => if use = .doubtful then .kept else use

/-- Keeps the doubtful lines that stand in rows of at least a length. -/
def keepRows (least : Nat) : Nat → List LineUse → List LineUse
  | 0, run => run
  | _, [] => []
  | fuel + 1, use :: run =>
    if use = .doubtful then
      let row := (use :: run).takeWhile (· = .doubtful)
      (if least ≤ row.length then keepDoubtful row else row) ++
        keepRows least fuel ((use :: run).drop row.length)
    else use :: keepRows least fuel run

/-- Keeps doubtful lines up to three dropped ones in a row, or the first dropped one after eight
lines. -/
def keepAtStart : Nat → Nat → List LineUse → List LineUse
  | _, _, [] => []
  | place, row, use :: run =>
    if 8 ≤ place && use = .dropped then use :: run
    else
      match use with
      | .dropped =>
        if row = 2 then use :: run else use :: keepAtStart (place + 1) (row + 1) run
      | _ => .kept :: keepAtStart (place + 1) 0 run

/-- Decides on the doubtful lines: only those among dropped ones are left out. -/
def decideLines : Nat → List LineUse → List LineUse
  | 0, uses => keepDoubtful uses
  | _, [] => []
  | fuel + 1, use :: uses =>
    if use != .dropped then .kept :: decideLines fuel uses
    else
      let whole := (use :: uses).takeWhile (· != .kept)
      let run := (whole.reverse.dropWhile (· = .doubtful)).reverse
      let after := decideLines fuel ((use :: uses).drop run.length)
      let doubtful := run.count .doubtful
      if run.length < doubtful * 4 then keepDoubtful run ++ after
      else
        let run := keepRows (keptRowLength run.length) (run.length + 1) run
        let run := keepAtStart 0 0 run
        (keepAtStart 0 0 run.reverse).reverse ++ after

/-- How often each class occurs. -/
def classCounts (classes : Nat) (lines : Array Nat) : Array Nat :=
  lines.foldl (fun counts line => counts.modify line (· + 1)) (Array.replicate classes 0)

/-- What is to be done with the lines of one side, given how often classes occur on the other. -/
def lineUses (counts lines : Array Nat) : List LineUse :=
  let many := manyLines lines.size
  let uses := lines.toList.map fun line =>
    let n := counts.getD line 0
    if n = 0 then LineUse.dropped else if many < n then .doubtful else .kept
  decideLines (lines.size + 1) uses

/-- The places of the lines that are kept. -/
def keptPlaces (uses : List LineUse) : Array Nat :=
  (uses.zipIdx.filterMap fun (use, i) => if use = .kept then some i else none).toArray

/-- Marks for all lines, given those of the lines that were kept. -/
def spreadMarks (size : Nat) (places : Array Nat) (marks : Array Bool) : Array Bool :=
  (places.zip marks).foldl (fun all (place, mark) => all.setIfInBounds place mark)
    (Array.replicate size true)

/-! ## Moving changes -/

/-- A run of changed lines on one side, and the place on the other side that corresponds to its end.
All places are counted from one, with an unchanged line in front and behind. -/
structure ChangeRun where
  changed : Array Bool
  start : Nat
  stop : Nat
  place : Nat

def nextUnchanged (flags : Array Bool) : Nat → Nat → Nat
  | 0, i => i
  | fuel + 1, i => if flags.getD i false then nextUnchanged flags fuel (i + 1) else i

def lastUnchanged (flags : Array Bool) : Nat → Nat
  | 0 => 0
  | i + 1 => if flags.getD i false then lastUnchanged flags i else i

/-- The first place of the changed lines that end before a place. -/
def startOfChanged (flags : Array Bool) : Nat → Nat
  | 0 => 0
  | i + 1 => if flags.getD i false then startOfChanged flags i else i + 1

/-- Moves a run up by one line and joins it with the run above. -/
def ChangeRun.up (other : Array Bool) (run : ChangeRun) : ChangeRun :=
  let changed := (run.changed.setIfInBounds (run.start - 1) true).setIfInBounds (run.stop - 1) false
  { changed := changed
    start := startOfChanged changed (run.start - 1)
    stop := run.stop - 1
    place := lastUnchanged other run.place }

def moveUp (lines : Array Nat) (other : Array Bool) : Nat → ChangeRun → ChangeRun
  | 0, run => run
  | fuel + 1, run =>
    if 1 < run.start && lines.getD (run.start - 1) 0 == lines.getD (run.stop - 1) 0 then
      moveUp lines other fuel (run.up other)
    else run

/-- Moves a run down as far as it goes; also gives the last end at which the other side changes. -/
def moveDown (lines : Array Nat) (other : Array Bool) :
    Nat → ChangeRun → Nat → ChangeRun × Nat
  | 0, run, corresponding => (run, corresponding)
  | fuel + 1, run, corresponding =>
    let last := lines.size
    if run.stop < last && lines.getD run.start 0 == lines.getD run.stop 0 then
      let changed := (run.changed.setIfInBounds run.start false).setIfInBounds run.stop true
      let stop := nextUnchanged changed last (run.stop + 1)
      let place := nextUnchanged other other.size (run.place + 1)
      let corresponding := if run.place + 1 < place then stop else corresponding
      moveDown lines other fuel ⟨changed, run.start + 1, stop, place⟩ corresponding
    else (run, corresponding)

/-- Moves a run up and down until it does not grow any more. -/
def settle (lines : Array Nat) (other : Array Bool) : Nat → ChangeRun → ChangeRun × Nat
  | 0, run => (run, lines.size)
  | fuel + 1, run =>
    let length := run.stop - run.start
    let run := moveUp lines other lines.size run
    let corresponding := if other.getD (run.place - 1) false then run.stop else lines.size
    let (run, corresponding) := moveDown lines other lines.size run corresponding
    if run.stop - run.start = length then (run, corresponding) else settle lines other fuel run

/-- Moves a run back to where the other side changes. -/
def moveTo (other : Array Bool) (corresponding : Nat) : Nat → ChangeRun → ChangeRun
  | 0, run => run
  | fuel + 1, run =>
    if corresponding < run.stop then
      let changed :=
        (run.changed.setIfInBounds (run.start - 1) true).setIfInBounds (run.stop - 1) false
      moveTo other corresponding fuel
        ⟨changed, run.start - 1, run.stop - 1, lastUnchanged other run.place⟩
    else run

/-- Moves all runs of one side; `lines` and the marks have one more place in front. -/
def moveRuns (lines : Array Nat) (other : Array Bool) :
    Nat → Nat → Nat → Array Bool → Array Bool
  | 0, _, _, changed => changed
  | fuel + 1, i, j, changed =>
    if lines.size ≤ i then changed
    else if !changed.getD i false then
      moveRuns lines other fuel (i + 1) (nextUnchanged other other.size j + 1) changed
    else
      let stop := nextUnchanged changed lines.size (i + 1)
      let place := nextUnchanged other other.size j
      let (run, corresponding) := settle lines other lines.size ⟨changed, i, stop, place⟩
      let run := moveTo other corresponding lines.size run
      moveRuns lines other fuel run.stop run.place run.changed

def framed (flags : Array Bool) : Array Bool :=
  (#[false] ++ flags).push false

def unframed (size : Nat) (flags : Array Bool) : Array Bool :=
  flags.extract 1 (size + 1)

/-- Moves the runs of one side, given the marks of both. -/
def movedRuns (lines : Array Nat) (changed other : Array Bool) : Array Bool :=
  unframed lines.size
    (moveRuns (#[0] ++ lines) (framed other) (2 * lines.size + 2) 1 1 (framed changed))

/-! ## Changes -/

/-- Reads the changes off the marks. -/
def readChanges (old new : Array Bool) : Nat → Nat → Nat → List Change
  | 0, _, _ => []
  | fuel + 1, i, j =>
    if old.size ≤ i && new.size ≤ j then []
    else
      let iEnd := nextUnchanged old old.size i
      let jEnd := nextUnchanged new new.size j
      let rest := readChanges old new fuel (iEnd + 1) (jEnd + 1)
      if iEnd = i && jEnd = j then rest else ⟨i, iEnd - i, j, jEnd - j⟩ :: rest

/-- The changes that lead from one sequence of classes to the other; `classes` is greater than each
class.  If `keepsAll` holds, no line is left out before. -/
def changesBetween (classes : Nat) (keepsAll : Bool) (old new : Array Nat) : List Change :=
  let usesOf := fun (own other : Array Nat) =>
    if keepsAll then List.replicate own.size LineUse.kept
    else lineUses (classCounts classes other) own
  let oldPlaces := keptPlaces (usesOf old new)
  let newPlaces := keptPlaces (usesOf new old)
  let pair : SequencePair :=
    ⟨oldPlaces.map fun i => old.getD i 0, newPlaces.map fun i => new.getD i 0⟩
  let marks := pair.changedLines
  let oldMarks := spreadMarks old.size oldPlaces marks.old
  let newMarks := spreadMarks new.size newPlaces marks.new
  let oldMarks := movedRuns old oldMarks newMarks
  let newMarks := movedRuns new newMarks oldMarks
  readChanges oldMarks newMarks (old.size + new.size + 2) 0 0

end KeyJoin.Tools.Differences
