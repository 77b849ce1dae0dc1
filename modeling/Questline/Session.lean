import Questline.Execution
import Questline.SkillCheck

/-!
# Sessions

A session walks one player through navigation, the steps shown, their options
and skill checks.  Every action of the player is a turn: it leads to a new
session, to an outcome, and to the list of players handed over to be kept, in
order.
-/

namespace Questline

inductive Phase where
  | characterCreation
  | navigation
  | displayStep
  | skillCheckRoll
  | skillCheckResult
  | levelUp
deriving DecidableEq

/-- A step as it is shown. -/
structure StepView where
  step : Step
  text : String
  options : List OptionView
deriving DecidableEq

/-- Why an action is refused. -/
inductive Refusal where
  | nothingToChoose
  | noSuchOption
  | optionUnavailable
  | noCheckPending
  | noResultPending
deriving DecidableEq

def Refusal.message : Refusal → String
  | nothingToChoose => "There is nothing to choose right now."
  | noSuchOption => "Pick a valid option."
  | optionUnavailable => "That option is not available."
  | noCheckPending => "No skill check is pending."
  | noResultPending => "No skill check result to continue from."

inductive Outcome where
  /-- A step is shown. -/
  | shown (view : StepView) (mutations : Mutations)
  /-- Nothing is to be found at a location. -/
  | nothingHere
  | refused (why : Refusal)
  /-- A target led nowhere; what an option did before stays done. -/
  | lost (mutations : Option Mutations)
  /-- Back to navigation. -/
  | ended (mutations : Option Mutations)
  /-- An option waits for a roll. -/
  | checkPending (option : StepOption) (mutations : Mutations)
  | checked (option : StepOption) (check : SkillCheck)
deriving DecidableEq

def nothingHereMessage : String :=
  "You don't see anything of interest here. Try another location."

def lostMessage : String := "Something went wrong. Returning to navigation."

namespace Outcome

inductive Kind where
  | step
  | noMatch
  | error
  | navigation
  | skillCheck
  | skillResult
deriving DecidableEq

def kind : Outcome → Kind
  | shown _ _ => .step
  | nothingHere => .noMatch
  | refused _ => .error
  | lost _ => .error
  | ended _ => .navigation
  | checkPending _ _ => .skillCheck
  | checked _ _ => .skillResult

def message? : Outcome → Option String
  | nothingHere => some nothingHereMessage
  | refused why => some why.message
  | lost _ => some lostMessage
  | _ => none

def mutations? : Outcome → Option Mutations
  | shown _ m => some m
  | lost m => m
  | ended m => m
  | checkPending _ m => some m
  | _ => none

def view? : Outcome → Option StepView
  | shown v _ => some v
  | _ => none

def check? : Outcome → Option SkillCheck
  | checked _ c => some c
  | _ => none

def option? : Outcome → Option StepOption
  | checkPending o _ => some o
  | checked o _ => some o
  | _ => none

/-- Whether the action did what it was meant to do. -/
def isOk : Outcome → Bool
  | nothingHere => false
  | refused _ => false
  | lost _ => false
  | _ => true

end Outcome

structure Session where
  content : Content
  player : Player
  phase : Phase
  current : Option StepView := none
  pendingOption : Option StepOption := none
  lastResult : Option SkillCheck := none
  draws : Draws := {}

/-- What an action leads to. -/
structure Turn where
  session : Session
  outcome : Option Outcome
  /-- The players handed over to be kept. -/
  kept : List Player

namespace Session

def config (s : Session) : Config := s.content.config

/-- The phase between steps: a pending level-up comes first. -/
def restPhase (p : Player) : Phase := if p.leveledUp then .levelUp else .navigation

def showPhase (p : Player) : Phase := if p.leveledUp then .levelUp else .displayStep

/-- A session with a character still to be created. -/
def fresh (content : Content) (draws : Draws) : Session where
  content := content
  player := .new content.config none fun _ => none
  phase := .characterCreation
  draws := draws

/-- A session that goes on with a player. -/
def resume (content : Content) (player : Player) (draws : Draws) : Session where
  content := content
  player := player
  phase := restPhase player
  draws := draws

def begin (content : Content) (player : Option Player) (draws : Draws) : Session :=
  match player with
  | none => fresh content draws
  | some player => resume content player draws

/-- A turn that changes nothing. -/
def refuse (s : Session) (why : Refusal) : Turn := ⟨s, some (.refused why), []⟩

/-- The same session with its player handed over. -/
def keep (s : Session) (outcome : Option Outcome) : Turn := ⟨s, outcome, [s.player]⟩

def select (s : Session) (id : String) : Option Step × Draws :=
  selectStep s.config.preferredTagWeight id (s.player.effectiveCounts s.config) s.content.steps
    s.draws

/-- The step with its patches as they apply to the player. -/
def composed (s : Session) (step : Step) : Step :=
  compose s.config.patchTextSeparator step (s.content.patchesFor step.id)
    (s.player.effectiveCounts s.config)

def mergeMutations (earlier : Option Mutations) (m : Mutations) : Mutations :=
  match earlier with
  | none => m
  | some e => e.merge m

/-- Composes, executes and shows a step; `earlier` is what led to it. -/
def load (s : Session) (step : Step) (earlier : Option Mutations) : Turn :=
  let composed := s.composed step
  let executed := execute s.config composed s.player s.draws
  let player := { executed.player with currentStepId := some step.id }
  let view : StepView := ⟨composed, executed.text, visibleOptions s.config composed.options player⟩
  keep
    { s with
      player := player
      current := some view
      phase := showPhase player
      draws := executed.draws }
    (some (.shown view (mergeMutations earlier executed.mutations)))

/-- Leaves the displayed step, if any, without a current step id. -/
def putAside (s : Session) : Session :=
  let player := { s.player with currentStepId := none }
  { s with current := none, player := player, phase := restPhase player }

/-- Goes to a target; one without an eligible step leads back to navigation. -/
def follow (s : Session) (target : String) (earlier : Option Mutations) : Turn :=
  match s.select target with
  | (some step, draws) => { s with draws := draws }.load step earlier
  | (none, draws) => { s with draws := draws }.putAside.keep (some (.lost earlier))

def endInteraction (s : Session) (mutations : Option Mutations) : Turn :=
  { s with pendingOption := none }.putAside.keep (some (.ended mutations))

def start (s : Session) (name : Option String) (chosen : Stat → Option Int) : Turn :=
  keep
    { s with
      player := .new s.config name chosen
      current := none
      pendingOption := none
      lastResult := none
      phase := .navigation }
    none

/-- The step id that a location stands for: an id as it is, a coordinate by its name. -/
def destination (c : Content) (location : String) : String :=
  let id := Text.trim location
  if c.hasStep id then id else c.resolveLocation id

def navigate (s : Session) (location : String) : Turn :=
  let s := { s with pendingOption := none, lastResult := none }
  match s.select (destination s.content location) with
  | (some step, draws) => { s with draws := draws }.load step none
  | (none, draws) =>
    ⟨{ s with draws := draws, current := none, phase := .navigation }, some .nothingHere, []⟩

/-- The option view at an index of the displayed step. -/
def optionAt? (view : StepView) (index : Int) : Option OptionView :=
  if index < 0 then none else view.options[index.toNat]?

def chooseOption (s : Session) (option : StepOption) : Turn :=
  let (player, mutations) := mutate s.config option.tags s.player
  let s := { s with player := player }
  if option.isSkillCheck then
    { s with pendingOption := some option, phase := .skillCheckRoll }.keep
      (some (.checkPending option mutations))
  else
    match option.passTarget with
    | some target => s.follow target (some mutations)
    | none => s.endInteraction (some mutations)

def selectOption (s : Session) (index : Int) : Turn :=
  match s.phase, s.current with
  | .displayStep, some view =>
    match optionAt? view index with
    | none => s.refuse .noSuchOption
    | some v => if v.available then s.chooseOption v.option else s.refuse .optionUnavailable
  | _, _ => s.refuse .nothingToChoose

def rollCheck (s : Session) (announced : Option Int) : Turn :=
  match s.phase, s.pendingOption with
  | .skillCheckRoll, some option =>
    match option.dc with
    | none => s.refuse .noCheckPending
    | some dc =>
      let (check, draws) := checkSkills s.config option.skills dc s.player announced s.draws
      ⟨{ s with draws := draws, lastResult := some check, phase := .skillCheckResult },
        some (.checked option check), []⟩
  | _, _ => s.refuse .noCheckPending

def continueCheck (s : Session) : Turn :=
  match s.phase, s.pendingOption, s.lastResult with
  | .skillCheckResult, some option, some check =>
    let s := { s with pendingOption := none, lastResult := none }
    match nextTarget option check with
    | some target => s.follow target none
    | none => s.endInteraction none
  | _, _, _ => s.refuse .noResultPending

def increaseStat (s : Session) (stat : Stat) : Turn :=
  keep
    { s with
      player := s.player.increaseStat stat s.config.statIncreaseAmount
      phase := if s.current.isSome then .displayStep else .navigation }
    none

/-- Abandons the displayed step. -/
def leave (s : Session) : Turn := s.endInteraction none

/-- What a player can do. -/
inductive Action where
  | start (name : Option String) (chosen : Stat → Option Int)
  | navigate (location : String)
  | selectOption (index : Int)
  | rollCheck (announced : Option Int)
  | continueCheck
  | increaseStat (stat : Stat)
  | leave

def perform (s : Session) : Action → Turn
  | .start name chosen => s.start name chosen
  | .navigate location => s.navigate location
  | .selectOption index => s.selectOption index
  | .rollCheck announced => s.rollCheck announced
  | .continueCheck => s.continueCheck
  | .increaseStat stat => s.increaseStat stat
  | .leave => s.leave

/-- The sessions after each of a list of actions. -/
def run (s : Session) : List Action → Session
  | [] => s
  | a :: as => (s.perform a).session.run as

theorem run_append (s : Session) (as bs : List Action) : s.run (as ++ bs) = (s.run as).run bs := by
  induction as generalizing s with
  | nil => rfl
  | cons a as ih => simp [run, ih]

end Session

end Questline
