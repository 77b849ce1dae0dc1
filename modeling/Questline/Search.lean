import Questline.Matching

/-!
# Searches

A search looks for the step at an id, for a player or for counts that are taken
as they are.  It is stopped by a player of too high a level, and by a token
whose number cannot be read.
-/

namespace Questline

/-- Whom steps are matched to. -/
inductive Seeker where
  | holding (counts : Counts)
  | player (p : Player)

/-- The counts that steps are matched to; those of a player have a level tag for each level. -/
def Seeker.counts? (config : Config) : Seeker → Except Fault Counts
  | holding counts => .ok counts
  | player p => do
    p.checkLevel config
    return p.effectiveCounts config

/-- The tokens that are read to find the step at an id: of each candidate, those up to the first
that fails. -/
def tokensSought (id : String) (counts : Counts) (steps : List Step) : List String :=
  (candidates id steps).flatMap fun step =>
    readInTurn (conditionHolds everyCondition counts) step.tags

/-- The step found at an id, if any, unless something stops the search. -/
def search (config : Config) (id : String) (seeker : Seeker) (steps : List Step) (draws : Draws) :
    Except Fault (Option Step × Draws) := do
  let counts ← seeker.counts? config
  checkTokens (tokensSought id counts steps)
  return selectStep config.preferredTagWeight id counts steps draws

end Questline
