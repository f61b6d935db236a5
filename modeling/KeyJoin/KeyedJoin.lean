import KeyJoin.TableRows

/-!
# Join on equal keys

Every left row is paired with every right row whose key is the same text.  The
pairs come in the order of the left rows, and for one left row in the order of
the right rows.  A row without cells has no key and joins nothing.
-/

namespace KeyJoin

structure JoinedRow where
  left : Row
  right : Row
  deriving DecidableEq, Repr, Inhabited

def JoinedRow.key (row : JoinedRow) : String :=
  row.left.key?.getD ""

def JoinedRow.cells (row : JoinedRow) : List String :=
  row.left.cells ++ row.right.cells

def partnersOf (left : Row) (right : List Row) : List Row :=
  match left.key? with
  | none => []
  | some key => right.filter fun row => row.key? == some key

def joinRows (left right : List Row) : List JoinedRow :=
  left.flatMap fun row => (partnersOf row right).map (⟨row, ·⟩)

end KeyJoin
