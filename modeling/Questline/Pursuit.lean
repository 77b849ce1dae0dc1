import Questline.Patching
import Questline.Session

/-!
# Pursuits

To navigate is to go after a step, and so is to choose an option or to go on
after a skill check that leads to a target.  An action is stopped only by what
it meets on such a way: a token whose number cannot be read, or a player of too
high a level to be matched to steps.
-/

namespace Questline

/-- All tokens of a step and of its options. -/
def StepOf.tokens (s : Step) : List String := s.tags ++ s.options.flatMap (·.tags)

def PatchOf.tokens (p : StepPatch) : List String := p.tags ++ p.options.flatMap (·.tags)

/-- What is gone after, and the session that does so. -/
structure Pursuit where
  session : Session
  target : String

namespace Pursuit

def counts (p : Pursuit) : Counts := p.session.player.effectiveCounts p.session.config

def found? (p : Pursuit) : Option Step := (p.session.select p.target).1

/-- The tokens that are read to find the step. -/
def tokensSought (p : Pursuit) : List String :=
  Questline.tokensSought p.target p.counts p.session.content.steps

/-- The patches that are put to the test for a step. -/
def patchesTried (p : Pursuit) (step : Step) : List StepPatch :=
  patchesTested step (p.session.content.patchesFor step.id)

/-- The tokens that are read to patch a step, to execute it and to show its options. -/
def tokensMet (p : Pursuit) (step : Step) : List String :=
  ((p.patchesTried step).flatMap fun patch =>
      readInTurn (patchTokenHolds step p.counts) patch.tags) ++
    (p.session.composed step).tokens

def tokens (p : Pursuit) : List String := p.tokensSought ++ p.found?.elim [] p.tokensMet

end Pursuit

namespace Session

/-- The session without what a skill check leaves behind. -/
def unburdened (s : Session) : Session := { s with pendingOption := none, lastResult := none }

/-- The session once the player has paid for an option. -/
def charged (s : Session) (o : StepOption) : Session :=
  { s with player := (mutate s.config o.tags s.player).1 }

/-- What the player gains and loses by choosing an option. -/
def charge (s : Session) (o : StepOption) : Mutations := (mutate s.config o.tags s.player).2

/-- The option that an action chooses, unless it is refused. -/
def chosen? (s : Session) : Action → Option StepOption
  | .selectOption index =>
    match s.phase, s.current with
    | .displayStep, some view =>
      ((optionAt? view index).filter (·.available)).map (·.option)
    | _, _ => none
  | _ => none

/-- The target that an action follows. -/
def followed? (s : Session) : Action → Option Pursuit
  | .continueCheck =>
    match s.phase, s.pendingOption, s.lastResult with
    | .skillCheckResult, some option, some check =>
      (nextTarget option check).map (Pursuit.mk s.unburdened)
    | _, _, _ => none
  | a => do
    let option ← s.chosen? a
    if option.isSkillCheck then none else option.passTarget.map (Pursuit.mk (s.charged option))

def pursued? (s : Session) : Action → Option Pursuit
  | .navigate location => some ⟨s.unburdened, destination s.content location⟩
  | a => s.followed? a

/-- What stops an action.  The options of a step are matched to the player as the step leaves
him. -/
def check (s : Session) (a : Action) : Except Fault Unit := do
  checkTokens ((s.chosen? a).elim [] (·.tags))
  match s.pursued? a with
  | none => return
  | some p =>
    p.session.player.checkLevel s.config
    checkTokens p.tokens
    (s.perform a).session.player.checkLevel s.config

/-- Performs an action, unless something stops it. -/
def attempt (s : Session) (a : Action) : Except Fault Turn := do
  s.check a
  return s.perform a

end Session

end Questline
