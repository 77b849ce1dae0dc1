import Questline.Json.Basic

/-!
# How deep values are nested

Copying a value goes down into its lists and objects, and only so far.
-/

namespace Questline.Json

mutual

/-- So many lists and objects stand inside one another. -/
def levels : Json → Nat
  | .arr xs => levelsOfList xs + 1
  | .obj ms => levelsOfMembers ms + 1
  | _ => 0

def levelsOfList : List Json → Nat
  | [] => 0
  | x :: xs => max (levels x) (levelsOfList xs)

def levelsOfMembers : List (String × Json) → Nat
  | [] => 0
  | (_, x) :: ms => max (levels x) (levelsOfMembers ms)

end

/-- A value of more levels cannot be copied: a copy takes twice as many calls as reading does. -/
def copyLimit : Nat := 495

def isCopyable (v : Json) : Bool := v.levels ≤ copyLimit

end Questline.Json
