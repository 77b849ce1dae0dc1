import Questline.Fault
import Questline.Json.Alike

/-!
# Tables from pairs

A table may be given as a list of pairs, and its names are then any scalars.
Names that compare equal are one name; the first one to be set stays.
-/

namespace Questline

abbrev PairTable := List (Json × Json)

namespace PairTable

def get? (name : Json) : PairTable → Option Json
  | [] => none
  | (k, v) :: rest => if k.alikeWithin true name then some v else get? name rest

def set (name v : Json) : PairTable → PairTable
  | [] => [(name, v)]
  | (k, w) :: rest =>
    if k.alikeWithin true name then (k, v) :: rest else (k, w) :: set name v rest

/-- The entries of `new` set one after the other. -/
def update (t new : PairTable) : PairTable := new.foldl (fun t p => set p.1 p.2 t) t

def ofTable (t : Table Json) : PairTable := t.map fun p => (.str p.1, p.2)

/-- The name of an entry as a document writes it. -/
def writtenName : Json → String
  | .str s => s
  | v => v.render

/-- The table that a document keeps of it. -/
def written (t : PairTable) : Table Json := Table.ofPairs (t.map fun p => (writtenName p.1, p.2))

/-- The table with the names as they are shown; null entries are left out. -/
def described (t : PairTable) : Table Json :=
  Table.ofPairs ((t.filter fun p => !p.2.isNull).map fun p => (p.1.describe, p.2))

/-- An element of a list that is a pair of a name and a value. -/
def entryOf (v : Json) : Except Fault (Json × Json) :=
  match v.items? with
  | none => .error .wrongKind
  | some [k, x] => if k.isContainer then .error .wrongKind else .ok (k, x)
  | some _ => .error .malformedPairs

/-- The table of an object, or of a list of pairs. -/
def ofJson : Json → Except Fault PairTable
  | .obj ms => .ok (ofTable ms)
  | v => do return update [] (← (← v.itemsOf).mapM entryOf)

end PairTable

end Questline
