import Questline.Content.Library
import Questline.Draws
import Questline.Player

/-!
# Matching steps

Which step is shown at an id: of the steps with that id the conditions filter
the eligible ones, preferred tags score them, and chance decides among the
best.
-/

namespace Questline

/-- Conditions of steps are all looked at. -/
def everyCondition : Scope := {}

/-- A step is eligible if the counts meet all of its conditions. -/
def eligible (counts : Counts) (s : Step) : Bool := conditionsMet everyCondition counts s.tags

/-- What a single token adds to the score. -/
def tokenScore (weight : Int) (counts : Counts) (token : String) : Int :=
  let t := Tag.ofToken token
  if t.operator = .prefer && t.met counts then weight else 0

/-- The weight of every satisfied preferred tag; bare requirements only filter. -/
def score (weight : Int) (counts : Counts) (s : Step) : Int :=
  total (s.tags.map (tokenScore weight counts))

/-- Whether a step is meant by an id, white space around it and the case of letters aside. -/
def isCandidate (id : String) (s : Step) : Bool :=
  Text.lower s.id == Text.lower (Text.trim id) && !isPatchId s.id

def candidates (id : String) (steps : List Step) : List Step := steps.filter (isCandidate id)

def eligibleSteps (id : String) (counts : Counts) (steps : List Step) : List Step :=
  (candidates id steps).filter (eligible counts)

def scoredSteps (weight : Int) (id : String) (counts : Counts) (steps : List Step) :
    List (Step × Int) :=
  (eligibleSteps id counts steps).map fun s => (s, score weight counts s)

/-- The elements of greatest score, in order. -/
def best {α : Type} (scored : List (α × Int)) : List α :=
  (scored.filter fun p => scored.all fun q => q.2 ≤ p.2).map (·.1)

def topSteps (weight : Int) (id : String) (counts : Counts) (steps : List Step) : List Step :=
  best (scoredSteps weight id counts steps)

/-- The step shown at an id, drawn among the best; none if no step is eligible. -/
def selectStep (weight : Int) (id : String) (counts : Counts) (steps : List Step) (draws : Draws) :
    Option Step × Draws :=
  draws.choose (topSteps weight id counts steps)

/-- How a condition of a step stands. -/
structure TagAnalysis where
  token : String
  blocks : Bool
  satisfied : Bool
  preferred : Bool
deriving DecidableEq

structure StepAnalysis where
  stepId : String
  eligible : Bool
  score : Int
  tags : List TagAnalysis
deriving DecidableEq

def analyzeToken (counts : Counts) (token : String) : Option TagAnalysis :=
  let t := Tag.ofToken token
  if t.isPlayerCondition then
    some ⟨token, t.operator == .forbid, t.met counts, t.operator == .prefer⟩
  else none

/-- Every condition of a step and how it stands; a step that is not eligible scores nothing. -/
def analyzeStep (weight : Int) (counts : Counts) (s : Step) : StepAnalysis :=
  let tags := s.tags.filterMap (analyzeToken counts)
  let eligible := tags.all (·.satisfied)
  ⟨s.id, eligible, if eligible then score weight counts s else 0, tags⟩

end Questline
