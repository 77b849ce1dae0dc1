import Questline.Proofs.Simulator.History
import Questline.Proofs.Simulator.Lockstep

/-!
# What author and player are shown

A session composes a step for the player who arrives there, before the step has
done anything to him, and keeps showing what it composed.  A simulator composes
the step whenever it is asked, for the player as he is by then.  The author is
shown what the player is shown as long as the step, by what it grants and
consumes, does not change which of its own patches apply.
-/

namespace Questline

theorem compose_congr {base : Step} {patches : List StepPatch} {counts counts' : Counts}
    (h : ∀ p ∈ patches, patchApplies base counts p = patchApplies base counts' p)
    (separator : String) :
    compose separator base patches counts = compose separator base patches counts' := by
  have happlicable : applicable base patches counts = applicable base patches counts' :=
    List.filter_congr h
  rw [compose, compose, happlicable]

namespace Simulator

variable {w : Simulator} {s : Session}

/-- Paying for an option keeps a simulator in step with a session in which nothing else has
happened. -/
theorem InStep.charged (h : w.InStep s) (o : StepOption) {before : Session}
    (content : before.content = s.content) (player : before.player = (s.charged o).player)
    (draws : before.draws = s.draws) : (w.charged o).InStep before := by
  have hconfig : w.config = s.config := congrArg Content.config h.content
  constructor
  · exact h.content.trans content.symm
  · rw [player]
    simp only [Simulator.charged, Session.charged, hconfig]
    exact h.player.mutate s.config o.tags
  · rw [draws]
    exact h.pending

/-- Where there is a step at the target, both get to it; the session shows it as it is composed for
the player before the step is executed. -/
theorem InStep.land_shown (h : w.InStep s) {earlier : Option Mutations} {target : String} {t : Turn}
    (landing : Session.Landing s earlier (some target) t) (found : (s.select target).1 ≠ none) :
    ∃ base view, (w.land (some target)).current = some base ∧
      t.session.current = some view ∧ view.step = s.composed base := by
  cases landing with
  | @shown _ step draws selected =>
      have hstep := (h.select target).1
      cases hw : w.select target with
      | mk step' draws' =>
          rw [hw, selected] at hstep
          cases hstep
          refine ⟨step, _, ?_, rfl, rfl⟩
          simp only [Simulator.land, enter, hw]
  | lost selected =>
      rw [selected] at found
      contradiction

theorem current_takeOption (w : Simulator) (step : Step) {o : StepOption} {outcome : CheckOutcome}
    {target : String} (leads : targetOf o outcome = some target) :
    (w.takeOption step o outcome).1.current = ((w.charged o).land (some target)).current := by
  unfold takeOption
  rw [leads]
  rfl

/-- A session and a simulator in step, in which the same option is taken that leads to a step, get
to the same step.  The session shows it with the patches that apply to the player who arrives; the
simulator with those that apply to the player that the step has left.  So both show the same if
these are the same patches. -/
theorem patchedStep_of_take (h : w.InStep s) {index : Int} {v : OptionView}
    (offered : s.Offers index v) {step : Step} {place : Nat} (shown : w.patchedStep = some step)
    (same : step.options[place]? = some v.option) (outcome : CheckOutcome) {roll : Int}
    (gives : v.option.isSkillCheck = true → s.RollGives v.option roll outcome) {target : String}
    (leads : targetOf v.option outcome = some target)
    (found : eligibleSteps target ((s.charged v.option).player.effectiveCounts s.config)
      s.content.steps ≠ []) :
    let arrived := s.run (Session.taking v.option index roll)
    let before := (s.charged v.option).player.effectiveCounts s.config
    let after := arrived.player.effectiveCounts s.config
    ∃ moved entry base view, w.take place outcome.name = .ok (moved, entry) ∧
      moved.current = some base ∧ arrived.current = some view ∧
      view.step = compose s.config.patchTextSeparator base (s.content.patchesFor base.id) before ∧
      moved.patchedStep =
        some (compose s.config.patchTextSeparator base (s.content.patchesFor base.id) after) ∧
      ((∀ p ∈ s.content.patchesFor base.id,
          patchApplies base after p = patchApplies base before p) →
        moved.patchedStep = some view.step) := by
  intro arrived before after
  obtain ⟨paid, earlier, t, hcontent, hplayer, hdraws, landing, hrun⟩ :=
    offered.taking_landing gives
  rw [leads] at landing
  -- Once the option is paid for, both are where its target has not been looked up yet.
  have hpaid : (w.charged v.option).InStep paid := h.charged v.option hcontent hplayer hdraws
  have hconfig : paid.config = s.config := congrArg Content.config hcontent
  have hselects : (paid.select target).1 ≠ none := by
    rw [Ne, Session.select_fst_eq_none_iff, hconfig, hcontent, hplayer]
    exact found
  obtain ⟨base, view, hbase, hview, hstep⟩ := hpaid.land_shown landing hselects
  have hcurrent := (current_takeOption w step leads).trans hbase
  have hmoved := (w.takeOption_moves step v.option outcome).content.trans h.content
  -- The composition depends on the player through his counts, and these are alike.
  have halike : (w.takeOption step v.option outcome).1.player.Alike arrived.player := by
    rw [player_takeOption, leads, show arrived = t.session from hrun]
    exact hpaid.land landing
  have hshows : view.step =
      compose s.config.patchTextSeparator base (s.content.patchesFor base.id) before := by
    rw [hstep, Session.composed, hconfig, hcontent, hplayer]
  have hpatched : (w.takeOption step v.option outcome).1.patchedStep =
      some (compose s.config.patchTextSeparator base (s.content.patchesFor base.id) after) := by
    simp only [patchedStep, hcurrent, Option.map_some, composed, counts, config, hmoved,
      halike.effectiveCounts]
    rfl
  refine ⟨(w.takeOption step v.option outcome).1, (w.takeOption step v.option outcome).2, base,
    view, take_eq_ok shown same outcome, hcurrent, ?_, hshows, hpatched, ?_⟩
  · rw [show arrived = t.session from hrun, hview]
  · intro hpatches
    rw [hpatched, hshows, compose_congr hpatches]

def enterVault : StepOption where
  label := "Enter"
  passTarget := some "Vault"

/-- A vault that makes an impression only on those who see it for the first time. -/
def museum : Content where
  steps :=
    [{ id := "Hall", text := "A hall.", options := [enterVault] },
      { id := "Vault", text := "A vault.", tags := ["+seen"] }]
  patches := [{ target := .str "Vault", tags := ["!seen"], options := [{ label := "Marvel" }] }]

/-- Who has seen the vault before is shown the same as the author. -/
theorem patchedStep_of_take_again :
    let s := (Session.begin museum (some { tags := ["seen"] }) {}).run [.navigate "Hall"]
    let w := (begin museum ["seen"] {}).setLocation "Hall"
    w.InStep s ∧ s.Offers 0 ⟨0, enterVault, "Enter", true, []⟩ ∧
      ∃ moved entry view, w.take (0 : Nat) CheckOutcome.pass.name = .ok (moved, entry) ∧
        (s.run (Session.taking enterVault 0 1)).current = some view ∧
        moved.patchedStep = some view.step := by
  intro s w
  have hstep : w.InStep s := ⟨rfl, ⟨by decide +kernel, fun _ => rfl, by decide +kernel⟩, rfl⟩
  have hoffered : s.Offers 0 ⟨0, enterVault, "Enter", true, []⟩ :=
    ⟨⟨by decide +kernel, ⟨museum.steps[0], "A hall.", [⟨0, enterVault, "Enter", true, []⟩]⟩,
      by decide +kernel, rfl⟩, rfl⟩
  have hshown : w.patchedStep = some museum.steps[0] := by decide +kernel
  have hsame : museum.steps[0].options[0]? = some enterVault := rfl
  have hgives : enterVault.isSkillCheck = true → s.RollGives enterVault 1 .pass := nofun
  have hfound : eligibleSteps "Vault"
      ((s.charged enterVault).player.effectiveCounts s.config) s.content.steps ≠ [] := by
    decide +kernel
  obtain ⟨moved, entry, base, view, htake, hbase, hview, -, -, hshows⟩ :=
    patchedStep_of_take hstep hoffered hshown hsame .pass hgives rfl hfound
  have hvault : (w.take (0 : Nat) CheckOutcome.pass.name).toOption.bind (·.1.current) =
      some museum.steps[1] := by
    decide +kernel
  rw [htake] at hvault
  obtain rfl : base = museum.steps[1] := Option.some.inj (hbase.symm.trans hvault)
  refine ⟨hstep, hoffered, moved, entry, view, htake, hview, hshows ?_⟩
  decide +kernel

/-- Who has not is offered an option that the author is not shown. -/
theorem patchedStep_can_differ :
    let s := (Session.begin museum (some {}) {}).run [.navigate "Hall"]
    let w := (begin museum [] {}).setLocation "Hall"
    w.InStep s ∧ s.Offers 0 ⟨0, enterVault, "Enter", true, []⟩ ∧
      (s.selectOption 0).session.current.map (·.step.options) = some [{ label := "Marvel" }] ∧
      ((w.take 0 "pass").toOption.bind (·.1.patchedStep)).map (·.options) = some [] := by
  intro s w
  have hstep : w.InStep s := ⟨rfl, ⟨by decide +kernel, fun _ => rfl, by decide +kernel⟩, rfl⟩
  have hoffered : s.Offers 0 ⟨0, enterVault, "Enter", true, []⟩ :=
    ⟨⟨by decide +kernel, ⟨museum.steps[0], "A hall.", [⟨0, enterVault, "Enter", true, []⟩]⟩,
      by decide +kernel, rfl⟩, rfl⟩
  exact ⟨hstep, hoffered, by decide +kernel, by decide +kernel⟩

end Simulator

end Questline
