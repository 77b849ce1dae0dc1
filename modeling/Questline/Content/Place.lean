import Questline.Fault

/-!
# Places in a payload

A place is the list of steps that lead to it from the top: positions in lists
and names of members.  Plain names are written after a point, other names as
quoted texts between brackets, positions between brackets.
-/

namespace Questline

inductive PlacePart where
  | position (n : Int)
  | truth (b : Bool)
  | name (s : String)
deriving DecidableEq

abbrev Place := List PlacePart

namespace Place

/-- The part that a value denotes: its text is a name, unless it counts something. -/
def partOf : Json → PlacePart
  | .int n => .position n
  | .bool b => .truth b
  | v => .name v.describe

/-- The text of a place, after what has been written before it. -/
def extend (written : String) : PlacePart → String
  | .position n => written ++ "[" ++ toString n ++ "]"
  | .truth b => written ++ "[" ++ (Json.bool b).describe ++ "]"
  | .name s =>
    if Text.isPlainName s.toList then
      if written.isEmpty then s else written ++ "." ++ s
    else written ++ "[" ++ Text.quoteAscii s ++ "]"

def text (place : Place) : String := place.foldl extend ""

def isWritablePart : PlacePart → Bool
  | .position n => Text.isWritable n
  | _ => true

/-- The text of a place all of whose positions can be written out. -/
def write (place : Place) : Except Fault String :=
  if place.all isWritablePart then .ok place.text else .error .unreadableNumber

end Place

end Questline
