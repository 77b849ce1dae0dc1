import Questline.Execution

/-!
# Simulator

An author walks content with a scratch player and chooses the outcome of every
skill check.  Moves are recorded, so that the author can step back or jump to
any earlier point; `position` counts the recorded moves that lie behind.
-/

namespace Questline

inductive CheckOutcome where
  | pass
  | fail
deriving DecidableEq

namespace CheckOutcome

def name : CheckOutcome → String
  | pass => "pass"
  | fail => "fail"

def ofName? : String → Option CheckOutcome
  | "pass" => some pass
  | "fail" => some fail
  | _ => none

end CheckOutcome

/-- A recorded move. -/
structure HistoryEntry where
  location : String
  stepId : Option String
  optionLabel : String
  target : Option String := none
  skills : List String := []
  dc : Option Int := none
  outcome : Option CheckOutcome := none
  tagsBefore : List String := []
  tagsAfter : List String := []
  varsBefore : Table String := []
  varsAfter : Table String := []
  added : List String := []
  removed : List String := []
deriving DecidableEq

/-- An option as the author sees it, with what it would grant and consume. -/
structure SimulatedOption where
  index : Nat
  option : StepOption
  label : String
  available : Bool
  missing : List String
  grants : List String
  consumes : List String
deriving DecidableEq

/-- Why a move cannot be made. -/
inductive MoveFault where
  | noActiveStep
  | noSuchOption (index : Int)
  | noSuchOutcome
deriving DecidableEq

def MoveFault.message : MoveFault → String
  | noActiveStep => "no step is active at this location"
  | noSuchOption index => "option " ++ toString index ++ " out of range"
  | noSuchOutcome => "outcome must be 'pass' or 'fail'"

structure Simulator where
  content : Content
  initialTags : List String
  player : Player
  location : String := ""
  history : List HistoryEntry := []
  position : Nat := 0
  current : Option Step := none
  draws : Draws := {}

namespace Simulator

def config (s : Simulator) : Config := s.content.config

def counts (s : Simulator) : Counts := s.player.effectiveCounts s.config

def begin (content : Content) (tags : List String) (draws : Draws) : Simulator where
  content := content
  initialTags := tags
  player := { tags := tags }
  draws := draws

def composed (s : Simulator) (step : Step) : Step :=
  compose s.config.patchTextSeparator step (s.content.patchesFor step.id) s.counts

/-- The current step with its patches as they apply now. -/
def patchedStep (s : Simulator) : Option Step := s.current.map s.composed

def select (s : Simulator) (id : String) : Option Step × Draws :=
  selectStep s.config.preferredTagWeight id s.counts s.content.steps s.draws

/-- The first of the best steps at an id; nothing is drawn. -/
def peek (s : Simulator) (id : String) : Option Step :=
  (topSteps s.config.preferredTagWeight id s.counts s.content.steps).head?

/-- The tags that an option would apply: its own, and those of the step it leads to. -/
def previewTokens (s : Simulator) (o : StepOption) : List String :=
  if o.isSkillCheck then o.tags
  else o.tags ++ ((o.passTarget.bind s.peek).map (·.tags)).getD []

def simulateOption (s : Simulator) (index : Nat) (o : StepOption) : SimulatedOption :=
  let missing := missingTokens s.config o s.counts
  let tokens := s.previewTokens o
  ⟨index, o, Template.render s.player.vars o.label, missing.isEmpty, missing,
    grantedNames tokens, consumedNames tokens⟩

def options (s : Simulator) : List SimulatedOption :=
  match s.patchedStep with
  | none => []
  | some step => step.options.mapIdx s.simulateOption

/-- Draws the current step at the location anew. -/
def refresh (s : Simulator) : Simulator :=
  if s.location.isEmpty then { s with current := none }
  else
    let (step, draws) := s.select s.location
    { s with current := step, draws := draws }

@[simp] theorem content_refresh (s : Simulator) : s.refresh.content = s.content := by
  unfold refresh
  split <;> rfl

@[simp] theorem player_refresh (s : Simulator) : s.refresh.player = s.player := by
  unfold refresh
  split <;> rfl

@[simp] theorem location_refresh (s : Simulator) : s.refresh.location = s.location := by
  unfold refresh
  split <;> rfl

@[simp] theorem history_refresh (s : Simulator) : s.refresh.history = s.history := by
  unfold refresh
  split <;> rfl

@[simp] theorem position_refresh (s : Simulator) : s.refresh.position = s.position := by
  unfold refresh
  split <;> rfl

/-- Records a move; moves that lay ahead are dropped. -/
def record (s : Simulator) (e : HistoryEntry) : Simulator :=
  let history := s.history.take s.position ++ [e]
  { s with history := history, position := history.length }

def addTag (s : Simulator) (tag : String) : Simulator :=
  { s with player := s.player.addTag tag }.refresh

def removeTag (s : Simulator) (tag : String) : Simulator :=
  { s with player := s.player.removeTag s.config tag }.refresh

def setVariable (s : Simulator) (name value : String) : Simulator :=
  { s with player := s.player.setVariable name value }

/-- The entry for an arrival. -/
def arrival (s : Simulator) (previous : String) (step : Step) : HistoryEntry where
  location := s.location
  stepId := some step.id
  optionLabel := if previous.isEmpty then "(started)" else "(traveled)"
  tagsBefore := s.player.tags
  tagsAfter := s.player.tags
  varsBefore := s.player.vars
  varsAfter := s.player.vars

/-- Goes to a location; arriving at a step of a new one is recorded. -/
def setLocation (s : Simulator) (location : String) : Simulator :=
  let previous := s.location
  let s := { s with location := location }.refresh
  match s.current with
  | none => s
  | some step => if location = previous then s else s.record (s.arrival previous step)

/-- Follows a target with the player as he is: the step's mutations and variables are applied. -/
def enter (s : Simulator) (target : String) : Simulator × Mutations :=
  match s.select target with
  | (none, draws) => ({ s with draws := draws, current := none, location := target }, {})
  | (some step, draws) =>
    let composed := s.composed step
    let (player, mutations) := mutate s.config composed.tags s.player
    let (player, draws) := settleVariables composed.vars player draws
    ({ s with player := player, draws := draws, current := some step, location := target },
      mutations)

/-- Where an option leads under an outcome. -/
def targetOf (o : StepOption) (outcome : CheckOutcome) : Option String :=
  if o.isSkillCheck && outcome = .fail then o.failTarget else o.passTarget

/-- Takes an option of the step shown. -/
def takeOption (s : Simulator) (step : Step) (o : StepOption) (outcome : CheckOutcome) :
    Simulator × HistoryEntry :=
  let target := targetOf o outcome
  let (player, own) := mutate s.config o.tags s.player
  let changed := { s with player := player }
  let (moved, mutations) :=
    match target with
    | none => (changed, own)
    | some target =>
      let (moved, more) := changed.enter target
      (moved, own.merge more)
  let entry : HistoryEntry :=
    { location := s.location
      stepId := some step.id
      optionLabel := o.label
      target := target
      skills := if o.isSkillCheck then o.skills else []
      dc := if o.isSkillCheck then o.dc else none
      outcome := if o.isSkillCheck then some outcome else none
      tagsBefore := s.player.tags
      tagsAfter := moved.player.tags
      varsBefore := s.player.vars
      varsAfter := moved.player.vars
      added := mutations.added.eraseDups
      removed := mutations.removed.eraseDups }
  let recorded := moved.record entry
  (if target.isSome then recorded else recorded.refresh, entry)

/-- Takes the option at an index with a named outcome. -/
def take (s : Simulator) (index : Int) (outcome : String) :
    Except MoveFault (Simulator × HistoryEntry) :=
  match s.patchedStep with
  | none => .error .noActiveStep
  | some step =>
    match if index < 0 then none else step.options[index.toNat]? with
    | none => .error (.noSuchOption index)
    | some o =>
      match CheckOutcome.ofName? outcome with
      | none => .error .noSuchOutcome
      | some outcome => .ok (s.takeOption step o outcome)

/-- Undoes the last recorded move. -/
def back (s : Simulator) : Simulator :=
  match s.position with
  | 0 => s
  | n + 1 =>
    match s.history[n]? with
    | none => s
    | some e =>
      { s with
        player := { s.player with tags := e.tagsBefore, vars := e.varsBefore }
        location := e.location
        position := n }.refresh

/-- Goes to the point right after a recorded move. -/
def jumpTo (s : Simulator) (index : Int) : Simulator :=
  if index < 0 then s
  else
    match s.history[index.toNat]? with
    | none => s
    | some e =>
      { s with
        player := { s.player with tags := e.tagsAfter, vars := e.varsAfter }
        location := e.target.getD e.location
        position := index.toNat + 1 }.refresh

def reset (s : Simulator) : Simulator :=
  { s with player := { tags := s.initialTags }, history := [], position := 0 }.refresh

end Simulator

end Questline
