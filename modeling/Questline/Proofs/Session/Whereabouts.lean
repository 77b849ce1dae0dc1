import Questline.Content.Build
import Questline.Proofs.Player.Experience
import Questline.Proofs.Session.Turns

/-!
# Where the player is

The step on display is known to the session, and its id to the player, who is
written down with it.  From the beginning of a game on the two agree as long as
a step is on display.  When none is, the player has no id either, unless he
walked away from a step to a location where nothing was to be found: then he
carries the id of that step along until a step is shown again or put aside.
-/

namespace Questline.Session

variable {s : Session} {a : Action} {t : Turn} {before : Option String}

/-- The id of the step on display. -/
def displayedId (s : Session) : Option String := s.current.map fun view => view.step.id

/-- The id that the player carries along after a turn although its step is off display; `before` is
the one that he carried along when the turn began. -/
def carries (before : Option String) (s : Session) (a : Action) (t : Turn) : Option String :=
  match a, t.outcome with
  | .start _ _, _ => none
  | _, some .nothingHere => s.displayedId.or before
  | _, some (.shown _ _) => none
  | _, some (.lost _) => none
  | _, some (.ended _) => none
  | _, _ => before

def carried (s : Session) (before : Option String) : List Action → Option String
  | [] => before
  | a :: as => (s.perform a).session.carried (carries before s a (s.perform a)) as

/-- The id that the player has is that of the step on display, or else the one carried along, and
that happens in navigation only. -/
structure Located (s : Session) (carried : Option String) : Prop where
  currentStepId : s.player.currentStepId = s.displayedId.or carried
  navigation : carried ≠ none → s.phase = .navigation ∧ s.current = none

theorem currentStepId_charged (s : Session) (o : StepOption) :
    (s.charged o).player.currentStepId = s.player.currentStepId := by
  obtain ⟨_, _, _, hplayer⟩ := s.player.exists_applyTokens_eq s.config o.tags
  rw [charged, mutate, hplayer]

namespace Located

theorem load (s : Session) (step : Step) (earlier : Option Mutations) :
    (s.load step earlier).session.Located none where
  currentStepId := by simp [Session.load, keep, displayedId, composed]
  navigation := by simp

theorem putAside (s : Session) : s.putAside.Located none where
  currentStepId := rfl
  navigation := by simp

theorem congr {r : Session} (h : s.Located before) (hcurrent : r.current = s.current)
    (hid : r.player.currentStepId = s.player.currentStepId)
    (hphase : s.phase = .navigation → s.current = none → r.phase = .navigation) :
    r.Located before where
  currentStepId := by
    rw [hid, h.currentStepId]
    simp only [displayedId, hcurrent]
  navigation := by
    intro hcarried
    obtain ⟨hnavigation, hnone⟩ := h.navigation hcarried
    exact ⟨hphase hnavigation hnone, hcurrent.trans hnone⟩

end Located

theorem Landing.located {earlier : Option Mutations} {target : Option String}
    (h : Landing s earlier target t) : t.session.Located none := by
  cases h with
  | shown => exact .load _ _ _
  | lost => exact .putAside _
  | ended => exact .putAside _

/-- Wherever a turn lands, nothing is carried along any more. -/
theorem Landing.carries_eq_none {earlier : Option Mutations} {target : Option String}
    (h : Landing s earlier target t) (before : Option String) (origin : Session) (a : Action) :
    carries before origin a t = none := by
  cases h <;> cases a <;> rfl

theorem Exit.located (hs : s.Located before) (h : Exit s a t) :
    t.session.Located (carries before s a t) := by
  cases h with
  | started => exact ⟨rfl, by simp [carries]⟩
  | arrived => exact .load _ _ _
  | nothingHere => exact ⟨hs.currentStepId, fun _ => ⟨rfl, rfl⟩⟩
  | notOffered => exact hs
  | @asked _ v offered _ =>
      refine hs.congr rfl (currentStepId_charged s v.option) ?_
      simp [offered.1.1]
  | chosen _ _ landing =>
      rw [landing.carries_eq_none]
      exact landing.located
  | notPending => exact hs
  | rolled awaited =>
      refine hs.congr rfl rfl ?_
      simp [awaited.1]
  | notDecided => exact hs
  | continued _ landing =>
      rw [landing.carries_eq_none]
      exact landing.located
  | raised stat =>
      refine hs.congr rfl rfl ?_
      intro _ hnone
      simp [increaseStat, keep, hnone]
  | left => exact .putAside _

theorem located_start (s : Session) (name : Option String) (chosen : Stat → Option Int) :
    (s.start name chosen).session.Located none where
  currentStepId := rfl
  navigation := by simp

theorem located_run (hs : s.Located before) (as : List Action) :
    (s.run as).Located (s.carried before as) := by
  -- every turn may change the id carried along, so the induction is for all of them
  induction as generalizing s before with
  | nil => exact hs
  | cons a as ih => exact ih ((perform_exit s a).located hs)

/-- In every session that can be reached from the beginning of a game, the player has the id of the
step on display.  When none is on display he has the one that he carried along, if he did: he walked
away from a step to a location where nothing was to be found, and none was shown or put aside
since. -/
theorem currentStepId_follows_display (s : Session) (name : Option String)
    (chosen : Stat → Option Int) (as : List Action) :
    let start := (s.start name chosen).session
    let r := start.run as
    (∀ view, r.current = some view → r.player.currentStepId = some view.step.id) ∧
      (r.current = none → r.player.currentStepId = start.carried none as) ∧
      (start.carried none as ≠ none → r.phase = .navigation ∧ r.current = none) := by
  intro start r
  have hr : r.Located (start.carried none as) := located_run (located_start s name chosen) as
  refine ⟨fun view hview => ?_, fun hnone => ?_, hr.navigation⟩
  · rw [hr.currentStepId, displayedId, hview]
    rfl
  · rw [hr.currentStepId, displayedId, hnone]
    rfl

/-- A gate, and nothing else. -/
def lonelyGate : Json :=
  .obj [("steps", .arr [.obj [("id", .str "Gate"), ("text", .str "A gate.")]])]

def lonelyContent : Content where
  steps := [{ id := "Gate", text := "A gate." }]

/-- Walking away from the gate to nowhere takes it off display, but not from the player. -/
theorem currentStepId_can_outlast_display :
    (Content.build none (.ofJson lonelyGate)).toOption = some lonelyContent ∧
      let start := ((fresh lonelyContent {}).start none fun _ => none).session
      let r := start.run [.navigate "Gate", .navigate "Nowhere"]
      r.current = none ∧ r.player.currentStepId = some "Gate" := by
  decide +kernel

end Questline.Session
