import Questline.Cap
import Questline.Pursuit

/-!
# Coverage

For every combination of the tags that the steps at a location test: which
steps chance would choose among.
-/

namespace Questline

inductive Cover where
  | none
  | single
  | ambiguous
deriving DecidableEq

namespace Cover

def name : Cover → String
  | none => "none"
  | single => "single"
  | ambiguous => "ambiguous"

def ofMatches {α : Type} : List α → Cover
  | [] => none
  | [_] => single
  | _ => ambiguous

end Cover

structure CoverageRow where
  /-- Which tags are held. -/
  held : Table Bool
  /-- The ids of the steps to choose among. -/
  found : List String
deriving DecidableEq

namespace CoverageRow

def cover (r : CoverageRow) : Cover := .ofMatches r.found

def heldText (r : CoverageRow) : String :=
  let names := Text.joined ", " ((r.held.filter (·.2)).map (·.1))
  if names.isEmpty then "(none)" else names

def text (r : CoverageRow) : String :=
  "  [" ++ Text.padRight 9 r.cover.name ++ "] " ++ r.heldText ++ " -> " ++
    if r.found.isEmpty then "-" else Text.joined ", " r.found

end CoverageRow

namespace Coverage

/-- So many tags are tried at most. -/
def tagLimit : Int := 6

def testedName? (token : String) : Option String :=
  let t := Tag.ofToken token
  if t.isPlayerCondition then some t.name else none

/-- The names that the steps at a location test, in the order in which they are first met. -/
def testedNames (c : Content) (location : String) : List String :=
  ((candidates location c.steps).flatMap fun s => s.tags.filterMap testedName?).eraseDups

def relevantTags (c : Content) (location : String) (limit : Int) : List String :=
  capped limit (testedNames c location)

/-- The combination of a number: the tag at position `i` is held if bit `i` is set. -/
def combination (tags : List String) (number : Nat) : Table Bool :=
  Table.ofPairs (tags.zipIdx.map fun (tag, i) => (tag, number.testBit i))

/-- One copy of every tag that is held. -/
def countsOf (held : Table Bool) : Counts := fun tag =>
  if (held.get? tag).getD false then 1 else 0

def row (c : Content) (location : String) (held : Table Bool) : CoverageRow :=
  ⟨held, (topSteps c.config.preferredTagWeight location (countsOf held) c.steps).map (·.id)⟩

/-- A row for every combination of the tags. -/
def rowsFor (c : Content) (location : String) (tags : List String) : List CoverageRow :=
  (List.range (Nat.pow 2 tags.length)).map fun number => row c location (combination tags number)

/-- A row for every combination of the tags tested at a location. -/
def rows (c : Content) (location : String) : List CoverageRow :=
  rowsFor c location (relevantTags c location tagLimit)

/-- The tokens that are read to tell what is tested at a location. -/
def tokensAt (c : Content) (location : String) : List String :=
  (candidates location c.steps).flatMap (·.tags)

/-- The rows of a location, unless a token there cannot be read. -/
def tabulate (c : Content) (location : String) : Except Fault (List CoverageRow) := do
  checkTokens (tokensAt c location)
  return rows c location

/-- The steps that players can travel to directly: named places, and ids without an underscore. -/
def locationIds (c : Content) : List String :=
  c.stepIds.filter fun id => c.locations.values.contains id || !id.toList.contains '_'

def gapText (gaps : Nat) : List String :=
  if gaps = 0 then [] else ["  " ++ toString gaps ++ " combination(s) reach no step."]

/-- The rows of a location, line by line. -/
def lines (location : String) (rows : List CoverageRow) : List String :=
  (location ++ ":") ::
    if rows.isEmpty then ["  (no steps)"]
    else rows.map CoverageRow.text ++ gapText (rows.countP fun r => r.cover = .none)

end Coverage

end Questline
