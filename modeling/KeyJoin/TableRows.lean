import KeyJoin.BlankText
import KeyJoin.SimulationFailure
import KeyJoin.TextLines

/-!
# Rows of a printed table

A line of the engine's output is a data line when it splits at bars into at
least two cells of which the first is an integer in decimal digits.  The cells
of a row are trimmed and otherwise kept as text.  Headers, prompts and
diagnostics are no data lines, and only such lines are searched for failure
markers, so that no cell can fail a scan.
-/

namespace KeyJoin

/-- Cell zero of a row is its join key. -/
structure Row where
  cells : List String
  deriving DecidableEq, Repr, Inhabited

def Row.key? (row : Row) : Option String :=
  row.cells.head?

def Row.get? (row : Row) (position : Nat) : Option String :=
  row.cells[position]?

def isDigits (text : List Char) : Bool :=
  !text.isEmpty && text.all Char.isDigit

/-- One or more decimal digits with at most one minus sign in front. -/
def isKeyText : List Char → Bool
  | '-' :: text => isDigits text
  | text => isDigits text

def dataCells? (line : List Char) : Option (List (List Char)) :=
  match ((trim line).splitOnP (· == '|')).map trim with
  | key :: cell :: cells => if isKeyText key then some (key :: cell :: cells) else none
  | _ => none

def isDataLine (line : String) : Bool :=
  (dataCells? line.toList).isSome

def holdsAny (markers : List String) (line : List Char) : Bool :=
  markers.any fun marker => occursIn marker.toList line

def rowOfLine? (discard : List String) (line : List Char) : Option Row :=
  if holdsAny discard line then none
  else (dataCells? line).map fun cells => ⟨cells.map String.ofList⟩

def parseRows (discard : List String) (text : String) : List Row :=
  (lines text.toList).filterMap (rowOfLine? discard)

/-- The failure marker met first, line by line and within a line in the order of the list. -/
def failureMarker? (failure : List String) (text : String) : Option String :=
  ((lines text.toList).filter fun line => (dataCells? line).isNone).findSome? fun line =>
    failure.find? fun marker => occursIn marker.toList line

def checkScan (markers : LineMarkers) (text : String) : Except ScanFault Unit :=
  if (trim text.toList).isEmpty then .error .noOutput
  else
    match failureMarker? markers.failure text with
    | some marker => .error (.failureMarker marker)
    | none => .ok ()

end KeyJoin
