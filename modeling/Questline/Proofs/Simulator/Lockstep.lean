import Questline.Proofs.Player.Likeness
import Questline.Proofs.Session.Coherence
import Questline.Simulator

/-!
# Simulator and session in step

An option that is taken in the simulator does to the scratch player what it
does to the player of a session.  A session gets there in one turn or, through
a skill check, in three, and the simulator in one move with an outcome chosen
by the author; what lies between changes neither tags nor variables nor
experience.  From there both go to the same target in the same way.
-/

namespace Questline

namespace Session

variable {s : Session} {o : StepOption} {index : Int} {v : OptionView} {outcome : CheckOutcome}

/-- What a player does to take an option; a skill check is rolled as announced. -/
def taking (o : StepOption) (index roll : Int) : List Action :=
  if o.isSkillCheck then [.selectOption index, .rollCheck (some roll), .continueCheck]
  else [.selectOption index]

/-- The check that an option asks for, rolled by the player once the option is paid for. -/
def checkOf (s : Session) (o : StepOption) (dc roll : Int) : SkillCheck :=
  .of (o.skills.map (skillBonus s.config (s.charged o).player)) dc roll

def RollGives (s : Session) (o : StepOption) (roll : Int) (outcome : CheckOutcome) : Prop :=
  ∀ dc, o.dc = some dc → ((s.checkOf o dc roll).success = true ↔ outcome = .pass)

/-- Every outcome can be brought about by some roll. -/
theorem exists_rollGives (s : Session) (o : StepOption) (outcome : CheckOutcome) :
    ∃ roll, s.RollGives o roll outcome := by
  let bonus := total ((o.skills.map (skillBonus s.config (s.charged o).player)).map (·.value))
  cases outcome with
  | pass =>
      refine ⟨o.dc.getD 0 - bonus, ?_⟩
      intro dc hdc
      simp [checkOf, SkillCheck.of, hdc, bonus]
  | fail =>
      refine ⟨o.dc.getD 0 - bonus - 1, ?_⟩
      intro dc hdc
      simp [checkOf, SkillCheck.of, hdc, bonus]
      omega

/-- With the roll announced, the check leads where the outcome does. -/
theorem RollGives.nextTarget_eq {dc roll : Int} (h : s.RollGives o roll outcome)
    (hcheck : o.isSkillCheck = true) (hdc : o.dc = some dc) :
    nextTarget o (s.checkOf o dc roll) = Simulator.targetOf o outcome := by
  have hsuccess := h dc hdc
  cases outcome with
  | pass => simp [nextTarget, Simulator.targetOf, hsuccess]
  | fail => simp [nextTarget, Simulator.targetOf, hsuccess, hcheck]

/-- Whichever way an option is taken, what follows the payment for it goes to the target under the
outcome, and the payment is all that has happened to the player before. -/
theorem Offers.taking_landing {roll : Int} (h : s.Offers index v)
    (hroll : v.option.isSkillCheck = true → s.RollGives v.option roll outcome) :
    ∃ (before : Session) (earlier : Option Mutations) (t : Turn),
      before.content = s.content ∧ before.player = (s.charged v.option).player ∧
      before.draws = s.draws ∧ Landing before earlier (Simulator.targetOf v.option outcome) t ∧
      s.run (taking v.option index roll) = t.session := by
  generalize ho : v.option = o at hroll ⊢
  have hchosen : s.perform (.selectOption index) = s.chooseOption o := ho ▸ h.selectOption_eq
  rw [chooseOption_eq] at hchosen
  cases hcheck : o.isSkillCheck with
  | false =>
      have htarget : Simulator.targetOf o outcome = o.passTarget := by
        simp [Simulator.targetOf, hcheck]
      rw [hcheck, if_neg Bool.false_ne_true] at hchosen
      refine ⟨s.charged o, some (s.charge o), s.perform (.selectOption index), rfl, rfl, rfl, ?_,
        by simp only [taking, hcheck]; rfl⟩
      rw [hchosen, htarget]
      cases o.passTarget with
      | none => exact .ended
      | some target => exact follow_landing _ target _
  | true =>
      obtain ⟨dc, hdc⟩ : ∃ dc, o.dc = some dc :=
        Option.isSome_iff_exists.mp (by simp_all [OptionOf.isSkillCheck])
      let asked : Session :=
        { s.charged o with pendingOption := some o, phase := .skillCheckRoll }
      let rolled : Session :=
        { asked with lastResult := some (s.checkOf o dc roll), phase := .skillCheckResult }
      have hasked : (s.perform (.selectOption index)).session = asked := by
        rw [hchosen, hcheck, if_pos rfl]
        rfl
      have hrolled : (asked.perform (.rollCheck (some roll))).session = rolled := by
        simp only [perform, rollCheck, asked, hdc]
        rfl
      have hawaits : rolled.AwaitsResult o (s.checkOf o dc roll) := ⟨rfl, rfl, rfl⟩
      refine ⟨rolled.unburdened, none, rolled.continueCheck, rfl, rfl, rfl, ?_, ?_⟩
      · rw [← (hroll hcheck).nextTarget_eq hcheck hdc]
        exact hawaits.continueCheck_landing
      · simp only [taking, hcheck, if_true, run, hasked, hrolled]
        rfl

end Session

namespace Simulator

variable {w : Simulator} {s : Session}

/-- A simulator and a session on the same content, with players alike and the same numbers still
to be drawn. -/
structure InStep (w : Simulator) (s : Session) : Prop where
  content : w.content = s.content
  player : w.player.Alike s.player
  pending : w.draws.pending = s.draws.pending

/-- The simulator once an option has been paid for. -/
def charged (w : Simulator) (o : StepOption) : Simulator :=
  { w with player := (mutate w.config o.tags w.player).1 }

/-- The simulator at a target, or where it is. -/
def land (w : Simulator) : Option String → Simulator
  | none => w
  | some target => (w.enter target).1

theorem player_takeOption (w : Simulator) (step : Step) (o : StepOption) (outcome : CheckOutcome) :
    (w.takeOption step o outcome).1.player =
      (land { w with player := (mutate w.config o.tags w.player).1 }
        (targetOf o outcome)).player := by
  unfold takeOption
  cases targetOf o outcome with
  | none => exact player_refresh _
  | some target => rfl

theorem take_eq_ok {step : Step} {o : StepOption} {place : Nat} (hstep : w.patchedStep = some step)
    (ho : step.options[place]? = some o) (outcome : CheckOutcome) :
    w.take place outcome.name = .ok (w.takeOption step o outcome) := by
  have hname : CheckOutcome.ofName? outcome.name = some outcome := by cases outcome <;> rfl
  have hplace : ¬ ((place : Int) < 0) := by omega
  simp only [take, hstep, hplace, if_false, Int.toNat_natCast, ho, hname]

namespace InStep

theorem select (h : w.InStep s) (id : String) :
    (w.select id).1 = (s.select id).1 ∧ (w.select id).2.pending = (s.select id).2.pending := by
  unfold Simulator.select Session.select Simulator.counts Simulator.config Session.config
  rw [h.content, h.player.effectiveCounts]
  exact Draws.choose_congr h.pending _

theorem composed (h : w.InStep s) (step : Step) : w.composed step = s.composed step := by
  unfold Simulator.composed Session.composed Simulator.counts Simulator.config Session.config
  rw [h.content, h.player.effectiveCounts]

/-- Alike players stay alike on the way to the same target. -/
theorem land (h : w.InStep s) {earlier : Option Mutations} {target : Option String} {t : Turn}
    (landing : Session.Landing s earlier target t) :
    (w.land target).player.Alike t.session.player := by
  cases landing with
  | @shown target step draws selected =>
      obtain ⟨hstep, hrest⟩ := h.select target
      cases hw : w.select target with
      | mk step' draws' =>
          rw [hw, selected] at hstep hrest
          cases hstep
          have hconfig : w.config = s.config := congrArg Content.config h.content
          have hexecuted := (h.player.symm.execute hrest.symm s.config (s.composed step)).1
          simp only [Simulator.land, enter, hw]
          change (settleVariables (w.composed step).vars
            (mutate w.config (w.composed step).tags w.player).1 draws').1.Alike _
          rw [h.composed, hconfig]
          exact ⟨hexecuted.tags.symm, fun name => (hexecuted.vars name).symm, hexecuted.xp.symm⟩
  | @lost target draws selected =>
      have hstep := (h.select target).1
      cases hw : w.select target with
      | mk step' draws' =>
          rw [hw, selected] at hstep
          cases hstep
          simp only [Simulator.land, enter, hw]
          exact ⟨h.player.tags, h.player.vars, h.player.xp⟩
  | ended => exact ⟨h.player.tags, h.player.vars, h.player.xp⟩

end InStep

/-- A session and a simulator on the same content, with the same tags, variables and experience and
the same draws, have the same tags, variables and experience again once the same option has been
taken in both: in the session by choosing it and, if it asks for a skill check, by a roll that gives
the outcome and going on; in the simulator with that outcome.  Some roll gives the outcome,
whichever it is.  Where the option leads, and whether there is anything at all, makes no
difference. -/
theorem take_alike {w : Simulator} {s : Session} (h : w.InStep s) {index : Int} {v : OptionView}
    (offered : s.Offers index v) {step : Step} {place : Nat} (shown : w.patchedStep = some step)
    (same : step.options[place]? = some v.option) (outcome : CheckOutcome) {roll : Int}
    (gives : v.option.isSkillCheck = true → s.RollGives v.option roll outcome) :
    (∃ announced, s.RollGives v.option announced outcome) ∧
      ∃ moved entry, w.take place outcome.name = .ok (moved, entry) ∧
        moved.player.Alike (s.run (Session.taking v.option index roll)).player := by
  refine ⟨s.exists_rollGives v.option outcome, (w.takeOption step v.option outcome).1,
    (w.takeOption step v.option outcome).2, take_eq_ok shown same outcome, ?_⟩
  obtain ⟨before, earlier, t, hcontent, hplayer, hdraws, landing, hrun⟩ :=
    offered.taking_landing gives
  have hconfig : w.config = s.config := congrArg Content.config h.content
  have hbefore :
      InStep { w with player := (mutate w.config v.option.tags w.player).1 } before := by
    constructor
    · exact h.content.trans hcontent.symm
    · rw [hplayer, hconfig]
      exact h.player.mutate s.config v.option.tags
    · rw [hdraws]
      exact h.pending
  rw [player_takeOption, hrun]
  exact hbefore.land landing

def crossing : StepOption where
  label := "Cross"
  tags := ["inv:coin", "-inv:coin"]
  passTarget := some "Island"
  failTarget := some "Wreck"
  skills := ["guile"]
  dc := some 5

/-- A ferry for a coin, and nothing written yet about a wreck. -/
def ferry : Content where
  steps :=
    [{ id := "Quay", text := "A quay.", options := [crossing] },
      { id := "Island", text := "An island.", tags := ["+inv:shell"],
        vars := [("wind", some [.text "north", .text "south"])] }]

/-- Across on the ferry in both, with the wind drawn alike. -/
theorem take_alike_across :
    let s := (Session.begin ferry (some { tags := ["inv:coin"] }) { pending := [3, 1, 6, 5] }).run
      [.navigate "Quay"]
    let w := (begin ferry ["inv:coin"] { pending := [3, 1, 6, 5] }).setLocation "Quay"
    w.InStep s ∧ s.RollGives crossing 5 .pass ∧
      ∃ moved entry, w.take (0 : Nat) CheckOutcome.pass.name = .ok (moved, entry) ∧
        moved.player.Alike (s.run (Session.taking crossing 0 5)).player := by
  intro s w
  have hstep : w.InStep s := by
    constructor
    · rfl
    · exact ⟨by decide +kernel, fun _ => rfl, by decide +kernel⟩
    · decide +kernel
  have hroll : s.RollGives crossing 5 .pass := by
    intro dc hdc
    obtain rfl : 5 = dc := Option.some.inj hdc
    decide +kernel
  have hoffered : s.Offers 0 ⟨0, crossing, "Cross", true, []⟩ := by
    refine ⟨⟨by decide +kernel, ⟨ferry.steps[0], "A quay.", [⟨0, crossing, "Cross", true, []⟩]⟩,
      by decide +kernel, rfl⟩, rfl⟩
  have hshown : w.patchedStep = some ferry.steps[0] := by decide +kernel
  exact ⟨hstep, hroll, (take_alike hstep hoffered hshown rfl .pass fun _ => hroll).2⟩

end Simulator

end Questline
