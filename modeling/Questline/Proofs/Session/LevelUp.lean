import Questline.Proofs.Session.Coherence

/-!
# Pending level-ups

A level that was gained stays pending until a stat is raised.  Outside of skill
checks the phase tells whether one is pending, except right after a location
where nothing was to be found: that leads to navigation whatever is pending.
A session does not remember how it came to navigation; `strayed` does.
-/

namespace Questline.Session

variable {s : Session} {a : Action} {t : Turn} {before : Bool}

/-- Whether the last action that was not refused found nothing at its location; `before` says so of
the actions before this turn. -/
def strays (before : Bool) (t : Turn) : Bool :=
  match t.outcome with
  | some .nothingHere => true
  | some (.refused _) => before
  | _ => false

def strayed (s : Session) (before : Bool) : List Action → Bool
  | [] => before
  | a :: as => (s.perform a).session.strayed (strays before (s.perform a)) as

structure TellsLevelUp (s : Session) (strayed : Bool) : Prop where
  levelUp_iff : s.phase.isCheck = false →
    (s.phase = .levelUp ↔ s.player.leveledUp = true ∧ strayed = false)
  navigation : strayed = true → s.phase = .navigation

theorem restPhase_eq_levelUp_iff {p : Player} : restPhase p = .levelUp ↔ p.leveledUp = true := by
  cases h : p.leveledUp <;> simp [restPhase, h]

theorem showPhase_eq_levelUp_iff {p : Player} : showPhase p = .levelUp ↔ p.leveledUp = true := by
  cases h : p.leveledUp <;> simp [showPhase, h]

namespace TellsLevelUp

/-- An action that found its way ends in a phase that goes by the player. -/
theorem of_phase_iff (h : s.phase = .levelUp ↔ s.player.leveledUp = true) :
    s.TellsLevelUp false where
  levelUp_iff := by
    intro _
    simpa using h
  navigation := nofun

theorem of_isCheck (h : s.phase.isCheck = true) : s.TellsLevelUp false where
  levelUp_iff := by
    intro hnot
    rw [h] at hnot
    contradiction
  navigation := nofun

theorem of_strayed (h : s.phase = .navigation) : s.TellsLevelUp true where
  levelUp_iff := by
    intro _
    simp [h]
  navigation := fun _ => h

theorem putAside (s : Session) : s.putAside.TellsLevelUp false :=
  of_phase_iff restPhase_eq_levelUp_iff

theorem load (s : Session) (step : Step) (earlier : Option Mutations) :
    (s.load step earlier).session.TellsLevelUp false :=
  of_phase_iff showPhase_eq_levelUp_iff

/-- A stat that is raised settles what was pending. -/
theorem increaseStat (s : Session) (stat : Stat) :
    (s.increaseStat stat).session.TellsLevelUp false := by
  apply of_phase_iff
  cases hcurrent : s.current <;>
    simp [Session.increaseStat, keep, Player.increaseStat, hcurrent]

end TellsLevelUp

theorem Landing.tellsLevelUp {earlier : Option Mutations} {target : Option String}
    (h : Landing s earlier target t) (before : Bool) :
    t.session.TellsLevelUp (strays before t) := by
  cases h with
  | shown => exact .load _ _ _
  | lost => exact .putAside _
  | ended => exact .putAside _

theorem Exit.tellsLevelUp (hs : s.TellsLevelUp before) (h : Exit s a t) :
    t.session.TellsLevelUp (strays before t) := by
  cases h with
  | started name chosen =>
      apply TellsLevelUp.of_phase_iff
      simp [start, keep, Player.new]
  | arrived => exact .load _ _ _
  | nothingHere => exact .of_strayed rfl
  | notOffered => exact hs
  | asked => exact .of_isCheck rfl
  | chosen _ _ landing => exact landing.tellsLevelUp before
  | notPending => exact hs
  | rolled => exact .of_isCheck rfl
  | notDecided => exact hs
  | continued _ landing => exact landing.tellsLevelUp before
  | raised stat => exact .increaseStat s stat
  | left => exact .putAside _

theorem tellsLevelUp_begin (content : Content) (player : Option Player) (draws : Draws) :
    (begin content player draws).TellsLevelUp false := by
  apply TellsLevelUp.of_phase_iff
  cases player with
  | none => simp [begin, fresh, Player.new]
  | some p => exact restPhase_eq_levelUp_iff

theorem tellsLevelUp_run (hs : s.TellsLevelUp before) (as : List Action) :
    (s.run as).TellsLevelUp (s.strayed before as) := by
  induction as generalizing s before with
  | nil => exact hs
  | cons a as ih =>
      have hturn := (perform_exit s a).tellsLevelUp hs
      exact ih hturn

/-- In every session that can be reached, the phase outside of skill checks is that of a level-up
exactly when one is pending and the last action that was not refused did not stray to a location
without anything to be found.  Having strayed, the session is always in navigation. -/
theorem levelUp_phase_iff (content : Content) (player : Option Player) (draws : Draws)
    (as : List Action) :
    let start := begin content player draws
    let s := start.run as
    (s.phase.isCheck = false →
      (s.phase = .levelUp ↔ s.player.leveledUp = true ∧ start.strayed false as = false)) ∧
    (start.strayed false as = true → s.phase = .navigation) := by
  intro start s
  have hstart : start.TellsLevelUp false := tellsLevelUp_begin content player draws
  have hs : s.TellsLevelUp (start.strayed false as) := tellsLevelUp_run hstart as
  exact ⟨hs.levelUp_iff, hs.navigation⟩

/-- A quest that is over as soon as it began, where every experience is a level. -/
def errand : Json :=
  .obj [("steps", .arr [.obj [("id", .str "Gate"), ("text", .str "A gate."),
      ("tags", .arr [.str "+quest", .str "-quest"])]]),
    ("config", .obj [("xpPerLevel", .int 1)])]

def errandContent : Content where
  steps := [{ id := "Gate", text := "A gate.", tags := ["+quest", "-quest"] }]
  config := { xpPerLevel := 1 }

/-- The level gained at the gate is offered there. -/
theorem levelUp_phase_at_gate :
    let as : List Action := [.start none fun _ => none, .navigate "Gate"]
    ((begin errandContent none {}).run as).phase.isCheck = false ∧
      ((begin errandContent none {}).run as).player.leveledUp = true ∧
      (begin errandContent none {}).strayed false as = false ∧
      ((begin errandContent none {}).run as).phase = .levelUp := by
  intro as
  have hcheck : ((begin errandContent none {}).run as).phase.isCheck = false := by decide +kernel
  have hpending : ((begin errandContent none {}).run as).player.leveledUp = true := by
    decide +kernel
  have hway : (begin errandContent none {}).strayed false as = false := by decide +kernel
  have hphase := (levelUp_phase_iff errandContent none {} as).1 hcheck
  exact ⟨hcheck, hpending, hway, hphase.mpr ⟨hpending, hway⟩⟩

/-- A walk to nowhere leaves the level pending and the session in navigation. -/
theorem levelUp_can_be_overlooked :
    (Content.build none (.ofJson errand)).toOption = some errandContent ∧
      let s := (begin errandContent none {}).run
        [.start none fun _ => none, .navigate "Gate", .navigate "Nowhere"]
      s.phase = .navigation ∧ s.player.leveledUp = true := by
  decide +kernel

end Questline.Session
