import Questline.Content.Build
import Questline.Proofs.Session.LevelUp

/-!
# Actions and their phases

Choosing, rolling and going on after a roll belong to one phase each.  Whether
such an action is refused, and why, depends on the phase and on the step on
display alone, and a refusal changes nothing and hands over nobody.  Raising a
stat belongs to level-ups, where one is always pending, but is done in every
other phase as well.
-/

namespace Questline.Session

variable {s : Session} {a : Action} {t : Turn}

/-- Why an action is refused, if it is. -/
def refusal? (s : Session) : Action → Option Refusal
  | .selectOption index =>
    if s.phase ≠ .displayStep then some .nothingToChoose
    else
      match s.current.bind fun view => optionAt? view index with
      | none => some .noSuchOption
      | some v => if v.available then none else some .optionUnavailable
  | .rollCheck _ => if s.phase ≠ .skillCheckRoll then some .noCheckPending else none
  | .continueCheck => if s.phase ≠ .skillCheckResult then some .noResultPending else none
  | _ => none

theorem refusal?_selectOption_eq_none_iff {index : Int} :
    s.refusal? (.selectOption index) = none ↔ ∃ v, s.Offers index v := by
  unfold refusal? Offers Displays
  by_cases hphase : s.phase = .displayStep
  · cases hcurrent : s.current with
    | none => simp [hphase]
    | some view =>
        cases hat : optionAt? view index with
        | none => simp [hphase, hat]
        | some v => simp [hphase, hat]
  · simp [hphase]

theorem selectOption_of_refusal? {index : Int} {why : Refusal} (hs : s.Coherent)
    (h : s.refusal? (.selectOption index) = some why) : s.selectOption index = s.refuse why := by
  by_cases hphase : s.phase = .displayStep
  · obtain ⟨view, hview⟩ : ∃ view, s.current = some view :=
      Option.isSome_iff_exists.mp (hs.current_isSome (by simp [hphase, Phase.showsStep]))
    simp only [refusal?, hphase, hview, ne_eq, not_true_eq_false, if_false,
      Option.bind_some] at h
    simp only [selectOption, hphase, hview]
    cases hat : optionAt? view index with
    | none =>
        rw [hat] at h
        rw [Option.some.inj h]
    | some v =>
        cases havailable : v.available with
        | true => simp [hat, havailable] at h
        | false =>
            have hwhy : why = .optionUnavailable := by
              simpa [hat, havailable, eq_comm] using h
            simp [hwhy, havailable]
  · have hwhy : why = .nothingToChoose := by simpa [refusal?, hphase, eq_comm] using h
    rw [hwhy, selectOption]
    split
    · next hdisplay _ => exact absurd hdisplay hphase
    · rfl

theorem rollCheck_of_phase_ne (h : s.phase ≠ .skillCheckRoll) (announced : Option Int) :
    s.rollCheck announced = s.refuse .noCheckPending := by
  unfold rollCheck
  split
  · next hroll _ => exact absurd hroll h
  · rfl

theorem continueCheck_of_phase_ne (h : s.phase ≠ .skillCheckResult) :
    s.continueCheck = s.refuse .noResultPending := by
  unfold continueCheck
  split
  · next hresult _ _ => exact absurd hresult h
  · rfl

theorem perform_of_refusal? {why : Refusal} (hs : s.Coherent) (h : s.refusal? a = some why) :
    s.perform a = s.refuse why := by
  cases a with
  | selectOption index => exact selectOption_of_refusal? hs h
  | rollCheck announced =>
      simp only [refusal?, Option.ite_none_right_eq_some, Option.some.injEq] at h
      obtain ⟨hphase, rfl⟩ := h
      exact rollCheck_of_phase_ne hphase announced
  | continueCheck =>
      simp only [refusal?, Option.ite_none_right_eq_some, Option.some.injEq] at h
      obtain ⟨hphase, rfl⟩ := h
      exact continueCheck_of_phase_ne hphase
  | start => cases h
  | navigate => cases h
  | increaseStat => cases h
  | leave => cases h

/-- What the phase and the step on display do not refuse is not refused at all. -/
theorem Exit.not_refused (hs : s.Coherent) (hnone : s.refusal? a = none) (h : Exit s a t)
    (why : Refusal) : t.outcome ≠ some (.refused why) := by
  cases h with
  -- the three refusals: a coherent session has what its phase calls for, against the guard
  | notOffered guard =>
      obtain ⟨v, hv⟩ := refusal?_selectOption_eq_none_iff.mp hnone
      exact absurd hv (guard v)
  | notPending guard =>
      have hphase : s.phase = .skillCheckRoll := by simpa [refusal?] using hnone
      obtain ⟨o, dc, hawaits⟩ := hs.exists_awaitsRoll hphase
      exact absurd hawaits (guard o dc)
  | notDecided guard =>
      have hphase : s.phase = .skillCheckResult := by simpa [refusal?] using hnone
      obtain ⟨o, c, hawaits⟩ := hs.exists_awaitsResult hphase
      exact absurd hawaits (guard o c)
  | chosen _ _ landing => exact landing.not_refused why
  | continued _ landing => exact landing.not_refused why
  | started => simp [start, keep]
  | arrived => simp [load, keep]
  | nothingHere => simp
  | asked => simp [keep]
  | rolled => simp
  | raised => simp [increaseStat, keep]
  | left => simp [endInteraction, keep]

/-- A stat is raised, a level-up is settled if one was pending, and the player is handed over; apart
from the phase, which goes by the step on display, the session stays as it is. -/
structure Raises (s : Session) (stat : Stat) (t : Turn) : Prop where
  raised : t.session.player.stats.get stat = s.player.stats.get stat + s.config.statIncreaseAmount
  others : ∀ other, other ≠ stat → t.session.player.stats.get other = s.player.stats.get other
  player : t.session.player =
    { s.player with stats := t.session.player.stats, leveledUp := false }
  phase : t.session.phase = if s.current.isSome then .displayStep else .navigation
  session : t.session = { s with player := t.session.player, phase := t.session.phase }
  kept : t.kept = [t.session.player]

theorem increaseStat_raises (s : Session) (stat : Stat) : s.Raises stat (s.increaseStat stat) where
  raised := Stats.get_set_self _ _ _
  others := fun _ hother => Stats.get_set_of_ne _ hother _
  player := rfl
  phase := rfl
  session := rfl
  kept := rfl

/-- In every session that can be reached, an action is refused exactly if it is not one for the
phase and the step on display, and then it changes nothing and hands over nobody.  Raising a stat
is never refused: in a level-up it settles what is pending, and in every other phase it raises the
stat all the same. -/
theorem refused_outside_phase (content : Content) (player : Option Player) (draws : Draws)
    (as : List Action) :
    let s := (begin content player draws).run as
    (∀ a why, s.refusal? a = some why → s.perform a = s.refuse why) ∧
      (∀ a, s.refusal? a = none → ∀ why, (s.perform a).outcome ≠ some (.refused why)) ∧
      (s.phase = .levelUp → s.player.leveledUp = true) ∧
      ∀ stat, s.Raises stat (s.perform (.increaseStat stat)) := by
  intro s
  have hs : s.Coherent := coherent_run content player draws as
  have hlevel := tellsLevelUp_run (tellsLevelUp_begin content player draws) as
  refine ⟨fun a why h => perform_of_refusal? hs h,
    fun a h why => (perform_exit s a).not_refused hs h why, fun hphase => ?_,
    increaseStat_raises s⟩
  exact ((hlevel.levelUp_iff (by simp [s, hphase, Phase.isCheck])).mp hphase).1

/-- Right after the beginning of a game nothing is pending, and a stat can be raised. -/
theorem increaseStat_needs_no_levelUp :
    (Content.build none (.ofJson (.obj [("steps", .arr [])]))).toOption = some {} ∧
      let s := (begin {} none {}).run [.start none fun _ => none]
      let t := s.perform (.increaseStat .might)
      s.phase = .navigation ∧ s.player.leveledUp = false ∧ s.player.stats.get .might = 2 ∧
        t.session.player.stats.get .might = 3 ∧ t.kept = [t.session.player] := by
  decide +kernel

end Questline.Session
