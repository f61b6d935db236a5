/-!
# Lines of a text and parts of a line

A line ends at a line feed, and a carriage return just before that line feed
belongs to the ending.  The part after the last line feed is a line only if it
is not empty, and there a carriage return belongs to the line.
-/

namespace KeyJoin

def lines : List Char → List (List Char)
  | [] => []
  | '\n' :: text => [] :: lines text
  | '\r' :: '\n' :: text => [] :: lines text
  | c :: text =>
    match lines text with
    | [] => [[c]]
    | line :: rest => (c :: line) :: rest

/-- Whether `part` stands in `text` without a gap. -/
def occursIn (part : List Char) : List Char → Bool
  | [] => part.isEmpty
  | c :: text => part.isPrefixOf (c :: text) || occursIn part text

/-- Equality of two texts up to the case of the letters A to Z. -/
def sameIgnoringCase (a b : String) : Bool :=
  a.toList.map Char.toLower == b.toList.map Char.toLower

end KeyJoin
