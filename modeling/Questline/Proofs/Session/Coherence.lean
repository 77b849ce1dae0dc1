import Questline.Content.Build
import Questline.Proofs.Matching.Selection
import Questline.Proofs.Session.Turns

/-!
# Coherence of phases

The phase of a session, the step on display, the pending option and the last
result fit together in every session that can be reached.  A skill check that
was begun can therefore always be rolled and acted upon; what may still be
missing then is a step at the target.
-/

namespace Questline

namespace Phase

def all : List Phase :=
  [characterCreation, navigation, displayStep, skillCheckRoll, skillCheckResult, levelUp]

/-- A skill check is under way. -/
def isCheck : Phase → Bool
  | skillCheckRoll => true
  | skillCheckResult => true
  | _ => false

/-- A step is on display. -/
def showsStep : Phase → Bool
  | displayStep => true
  | p => p.isCheck

/-- No step is on display; during a level-up there may be one or not. -/
def showsNothing : Phase → Bool
  | characterCreation => true
  | navigation => true
  | _ => false

theorem mem_all (p : Phase) : p ∈ all := by cases p <;> decide

end Phase

/-- A check that an option asks for, made by a player: it has the option's difficulty and one bonus
for each of its skills, and it succeeds when roll and bonuses reach the difficulty. -/
structure SkillCheck.IsFor (c : SkillCheck) (config : Config) (p : Player) (o : StepOption) :
    Prop where
  dc : o.dc = some c.dc
  bonuses : c.bonuses = o.skills.map (skillBonus config p)
  totalBonus : c.totalBonus = Questline.total (c.bonuses.map (·.value))
  success : c.success = true ↔ c.dc ≤ c.roll + c.totalBonus

theorem checkSkills_isFor {config : Config} {o : StepOption} {dc : Int} (h : o.dc = some dc)
    (p : Player) (announced : Option Int) (draws : Draws) :
    (checkSkills config o.skills dc p announced draws).1.IsFor config p o where
  dc := h
  bonuses := rfl
  totalBonus := rfl
  success := decide_eq_true_iff

namespace Session

/-- Phase, step on display, pending option and last result fit together. -/
structure Coherent (s : Session) : Prop where
  phase_mem : s.phase ∈ Phase.all
  current_isSome : s.phase.showsStep = true → s.current.isSome
  current_eq_none : s.phase.showsNothing = true → s.current = none
  pending_isSkillCheck : s.phase.isCheck = true →
    ∃ o, s.pendingOption = some o ∧ o.isSkillCheck = true
  result_isFor : s.phase = .skillCheckResult →
    ∃ o c, s.pendingOption = some o ∧ s.lastResult = some c ∧ c.IsFor s.config s.player o

namespace Coherent

variable {s : Session} {a : Action} {t : Turn}

/-- With nothing on display, any phase outside of a step will do. -/
theorem of_current_eq_none (hcurrent : s.current = none) (hphase : s.phase.showsStep = false) :
    s.Coherent where
  phase_mem := s.phase.mem_all
  current_isSome := by simp [hphase]
  current_eq_none := fun _ => hcurrent
  pending_isSkillCheck := by
    intro hcheck
    cases hp : s.phase <;> simp_all [Phase.isCheck, Phase.showsStep]
  result_isFor := by
    intro hresult
    simp [hresult, Phase.showsStep, Phase.isCheck] at hphase

/-- With a step on display, so will any phase that neither hides it nor belongs to a check. -/
theorem of_current_isSome (hcurrent : s.current.isSome) (hcheck : s.phase.isCheck = false)
    (hphase : s.phase.showsNothing = false) : s.Coherent where
  phase_mem := s.phase.mem_all
  current_isSome := fun _ => hcurrent
  current_eq_none := by simp [hphase]
  pending_isSkillCheck := by simp [hcheck]
  result_isFor := by
    intro hresult
    simp [hresult, Phase.isCheck] at hcheck

theorem putAside (s : Session) : s.putAside.Coherent := by
  refine of_current_eq_none rfl ?_
  simp only [Session.putAside, restPhase]
  split <;> rfl

theorem load (s : Session) (step : Step) (earlier : Option Mutations) :
    (s.load step earlier).session.Coherent := by
  refine of_current_isSome rfl ?_ ?_ <;>
  · simp only [Session.load, keep, showPhase]
    split <;> rfl

end Coherent

variable {s : Session} {a : Action} {t : Turn}

theorem Landing.coherent {earlier : Option Mutations} {target : Option String}
    (h : Landing s earlier target t) : t.session.Coherent := by
  cases h with
  | shown => exact .load _ _ _
  | lost => exact .putAside _
  | ended => exact .putAside _

/-- Raising a stat leaves every phase but the one that fits what is on display. -/
theorem coherent_increaseStat (s : Session) (stat : Stat) :
    (s.increaseStat stat).session.Coherent := by
  cases hcurrent : s.current with
  | none =>
      refine .of_current_eq_none hcurrent ?_
      simp [increaseStat, keep, hcurrent, Phase.showsStep, Phase.isCheck]
  | some view =>
      refine .of_current_isSome ?_ ?_ ?_ <;>
        simp [increaseStat, keep, hcurrent, Phase.showsNothing, Phase.isCheck]

theorem Exit.coherent (hs : s.Coherent) (h : Exit s a t) : t.session.Coherent := by
  cases h with
  | started => exact .of_current_eq_none rfl rfl
  | arrived => exact .load _ _ _
  | nothingHere => exact .of_current_eq_none rfl rfl
  | notOffered => exact hs
  | @asked _ v offered check =>
      obtain ⟨⟨-, view, hview, -⟩, -⟩ := offered
      exact
        { phase_mem := Phase.mem_all _
          current_isSome := fun _ => by simp [keep, charged, hview]
          current_eq_none := nofun
          pending_isSkillCheck := fun _ => ⟨v.option, rfl, check⟩
          result_isFor := nofun }
  | chosen _ _ landing => exact landing.coherent
  | notPending => exact hs
  | @rolled announced o dc awaited =>
      obtain ⟨hphase, hpending, hdc⟩ := awaited
      have hshown : s.current.isSome := hs.current_isSome (by simp [hphase, Phase.showsStep,
        Phase.isCheck])
      have hcheck := hs.pending_isSkillCheck (by simp [hphase, Phase.isCheck])
      exact
        { phase_mem := Phase.mem_all _
          current_isSome := fun _ => hshown
          current_eq_none := nofun
          pending_isSkillCheck := fun _ => hcheck
          result_isFor := fun _ =>
            ⟨o, _, hpending, rfl, checkSkills_isFor hdc s.player announced s.draws⟩ }
  | notDecided => exact hs
  | continued _ landing => exact landing.coherent
  | raised stat => exact coherent_increaseStat s stat
  | left => exact .putAside _

theorem coherent_begin (content : Content) (player : Option Player) (draws : Draws) :
    (begin content player draws).Coherent := by
  cases player with
  | none => exact .of_current_eq_none rfl rfl
  | some player =>
      refine .of_current_eq_none rfl ?_
      simp only [begin, resume, restPhase]
      split <;> rfl

theorem coherent_run (content : Content) (player : Option Player) (draws : Draws)
    (as : List Action) : ((begin content player draws).run as).Coherent :=
  run_induction (coherent_begin content player draws)
    (fun s a hs => (perform_exit s a).coherent hs) as

namespace Coherent

theorem exists_awaitsRoll (hs : s.Coherent) (hphase : s.phase = .skillCheckRoll) :
    ∃ o dc, s.AwaitsRoll o dc := by
  obtain ⟨o, hpending, hcheck⟩ := hs.pending_isSkillCheck (by simp [hphase, Phase.isCheck])
  obtain ⟨dc, hdc⟩ : ∃ dc, o.dc = some dc :=
    Option.isSome_iff_exists.mp (by simp_all [OptionOf.isSkillCheck])
  exact ⟨o, dc, hphase, hpending, hdc⟩

theorem exists_awaitsResult (hs : s.Coherent) (hphase : s.phase = .skillCheckResult) :
    ∃ o c, s.AwaitsResult o c := by
  obtain ⟨o, c, hpending, hlast, -⟩ := hs.result_isFor hphase
  exact ⟨o, c, hphase, hpending, hlast⟩

end Coherent

theorem Coherent.rollCheck_outcome (h : s.Coherent) (hphase : s.phase = .skillCheckRoll)
    (announced : Option Int) :
    ∃ o c, s.pendingOption = some o ∧
      (s.rollCheck announced).outcome = some (.checked o c) := by
  obtain ⟨o, dc, -, hpending, hdc⟩ := h.exists_awaitsRoll hphase
  refine ⟨o, (checkSkills s.config o.skills dc s.player announced s.draws).1, hpending, ?_⟩
  simp [Session.rollCheck, hphase, hpending, hdc]

/-- A turn that goes to a target shows a step, or ends where there is no target, or is lost where
no step at the target is eligible. -/
theorem Landing.outcome {earlier : Option Mutations} {target : Option String}
    (h : Landing s earlier target t) :
    (∃ view m, t.outcome = some (.shown view m)) ∨
      (t.outcome = some (.ended earlier) ∧ target = none) ∨
      (t.outcome = some (.lost earlier) ∧ ∃ id, target = some id ∧
        eligibleSteps id (s.player.effectiveCounts s.config) s.content.steps = []) := by
  cases h with
  | shown => exact .inl ⟨_, _, rfl⟩
  | @lost id draws selected =>
      have hnone : (s.select id).1 = none := by rw [selected]
      exact .inr (.inr ⟨rfl, id, rfl, select_fst_eq_none_iff.mp hnone⟩)
  | ended => exact .inr (.inl ⟨rfl, rfl⟩)

theorem Landing.not_refused {earlier : Option Mutations} {target : Option String}
    (h : Landing s earlier target t) (why : Refusal) : t.outcome ≠ some (.refused why) := by
  obtain ⟨view, m, hout⟩ | ⟨hout, -⟩ | ⟨hout, -⟩ := h.outcome <;> simp [hout]

/-- A result that is acted upon goes to the target that the check decides on. -/
theorem AwaitsResult.continueCheck_landing {o : StepOption} {c : SkillCheck}
    (h : s.AwaitsResult o c) : Landing s.unburdened none (nextTarget o c) s.continueCheck := by
  obtain ⟨hphase, hpending, hlast⟩ := h
  simp only [continueCheck, hphase, hpending, hlast]
  cases nextTarget o c with
  | some target => exact follow_landing _ target none
  | none => exact .ended

/-- In every session that can be reached, phase, step on display, pending option and last result
fit together.  So a pending check is never refused its roll, and a result is never refused to be
acted upon: it shows a step, or ends the interaction where the option has no target, or is lost
where no step at the target is eligible. -/
theorem skillChecks_go_on (content : Content) (player : Option Player) (draws : Draws)
    (as : List Action) :
    let s := (begin content player draws).run as
    s.Coherent ∧
      (s.phase = .skillCheckRoll → ∀ announced, ∃ o c, s.pendingOption = some o ∧
        (s.rollCheck announced).outcome = some (.checked o c)) ∧
      (s.phase = .skillCheckResult → ∃ o c, s.AwaitsResult o c ∧
        ((∃ view m, s.continueCheck.outcome = some (.shown view m)) ∨
          (s.continueCheck.outcome = some (.ended none) ∧ nextTarget o c = none) ∨
          (s.continueCheck.outcome = some (.lost none) ∧ ∃ id, nextTarget o c = some id ∧
            eligibleSteps id (s.player.effectiveCounts s.config) s.content.steps = []))) := by
  intro s
  have hs : s.Coherent := coherent_run content player draws as
  refine ⟨hs, fun hphase announced => hs.rollCheck_outcome hphase announced, ?_⟩
  intro hphase
  obtain ⟨o, c, hpending, hlast, -⟩ := hs.result_isFor hphase
  have hawaits : s.AwaitsResult o c := ⟨hphase, hpending, hlast⟩
  exact ⟨o, c, hawaits, hawaits.continueCheck_landing.outcome⟩

/-- A gate that can only be forced, and nothing written yet for what comes after. -/
def unfinishedGate : Json :=
  .obj [("steps", .arr [.obj
    [("id", .str "Gate"), ("text", .str "A gate."), ("options", .arr [.obj
      [("label", .str "Force it"), ("skill", .str "might"), ("dc", .int 6),
        ("pass", .str "Hall"), ("fail", .str "Ditch")]])]])]

def forceGate : StepOption where
  label := "Force it"
  passTarget := some "Hall"
  failTarget := some "Ditch"
  skills := ["might"]
  dc := some 6

/-- A result can be acted upon and still lead to an error, in content that was built without one. -/
theorem continueCheck_can_be_lost :
    ∃ content, (Content.build none (.ofJson unfinishedGate)).toOption = some content ∧
      let s := (begin content none {}).run
        [.start none fun _ => none, .navigate "Gate", .selectOption 0, .rollCheck (some 1)]
      s.phase = .skillCheckResult ∧ s.continueCheck.outcome = some (.lost none) ∧
        (Outcome.lost none).message? = some lostMessage ∧ (Outcome.lost none).isOk = false := by
  refine ⟨{ steps := [{ id := "Gate", text := "A gate.", options := [forceGate] }] }, ?_⟩
  decide +kernel

end Session

end Questline
