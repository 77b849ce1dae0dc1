import Questline.Content.Record
import Questline.Json.PairTable
import Questline.Text.Case

/-!
# Content

A set of steps and patches with the rules, the names of locations and the
option presets that came with them.  Steps are indexed by id without regard to
case, patches by their exact target.
-/

namespace Questline

structure Content where
  steps : List Step := []
  patches : List StepPatch := []
  config : Config := {}
  locations : Table String := []
  presets : PairTable := []
deriving DecidableEq

instance : Inhabited Content := ⟨{}⟩

/-- The elements of a list under their keys, keys in the order of their first element. -/
def groupBy {α : Type} (key : α → Option String) (xs : List α) : Table (List α) :=
  xs.foldl (fun groups x =>
    match key x with
    | none => groups
    | some k => groups.set k ((groups.get? k).getD [] ++ [x])) []

namespace Content

def stepIndex (c : Content) : Table (List Step) := groupBy (fun s => some (Text.lower s.id)) c.steps

def patchIndex (c : Content) : Table (List StepPatch) :=
  groupBy (fun p => p.target.asText?) c.patches

/-- The steps with an id, the case of letters aside. -/
def stepsFor (c : Content) (id : String) : List Step :=
  (Table.get? (Text.lower id) c.stepIndex).getD []

def hasStep (c : Content) (id : String) : Bool := Table.contains (Text.lower id) c.stepIndex

/-- The different step ids in the order of their first step. -/
def stepIds (c : Content) : List String := (c.steps.map (·.id)).eraseDups

def patchesFor (c : Content) (target : String) : List StepPatch :=
  (Table.get? target c.patchIndex).getD []

def normalCoordinate (coordinate : String) : String := Text.upper (Text.trim coordinate)

/-- The locations of a payload, coordinates brought to one form. -/
def locationsOf (given : Table Json) : Table String :=
  Table.ofPairs (given.map fun p => (normalCoordinate p.1, p.2.describe))

/-- The name of the location at a coordinate; an unknown coordinate is its own name. -/
def resolveLocation (c : Content) (coordinate : String) : String :=
  let normal := normalCoordinate coordinate
  (Table.get? normal c.locations).getD normal

/-- A one-line account of the size of the content. -/
def describe (c : Content) : String :=
  "Content(steps=" ++ toString c.steps.length ++ ", patches=" ++ toString c.patches.length ++ ")"

end Content

end Questline
