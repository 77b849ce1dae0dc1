/-!
# Edit distance

The least number of insertions, deletions and substitutions of single
characters that lead from one text to another, computed row by row: the row of
a first text holds its distances to all beginnings of the second.
-/

namespace Questline.Text

/-- The cells of a row after the first: `left` is the cell before, `previous` the row above, from
the cell above `left` on. -/
def rowFrom (c : Char) : List Char → List Nat → Nat → List Nat
  | d :: ds, diagonal :: above :: previous, left =>
    let cell := min (min (above + 1) (left + 1)) (diagonal + if c = d then 0 else 1)
    cell :: rowFrom c ds (above :: previous) cell
  | _, _, _ => []

/-- The row for a first text that is one character longer. -/
def nextRow (second : List Char) (previous : List Nat) (c : Char) : List Nat :=
  let first := previous.headD 0 + 1
  first :: rowFrom c second previous first

/-- The row for the empty text. -/
def firstRow (second : List Char) : List Nat := List.range (second.length + 1)

def lastRow (first second : List Char) : List Nat := first.foldl (nextRow second) (firstRow second)

def editDistance (a b : String) : Nat := (lastRow a.toList b.toList).getLastD 0

end Questline.Text
