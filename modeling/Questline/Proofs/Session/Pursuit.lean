import Questline.Proofs.Session.Turns

/-!
# What an action goes after

The pursuit of an action in terms of the guards of its exits: an option that is
offered is chosen and its target followed, and so is the target of a result
that waits to be acted upon.
-/

namespace Questline.Session

variable {s : Session} {a : Action} {t : Turn} {p : Pursuit} {index : Int}

theorem chosen?_selectOption {v : OptionView} (h : s.Offers index v) :
    s.chosen? (.selectOption index) = some v.option := by
  obtain ⟨⟨hphase, view, hcurrent, hat⟩, havailable⟩ := h
  simp [chosen?, hphase, hcurrent, hat, Option.filter_some, havailable]

theorem exists_offers_of_chosen? {o : StepOption}
    (h : s.chosen? (.selectOption index) = some o) : ∃ v, s.Offers index v ∧ v.option = o := by
  simp only [chosen?] at h
  split at h
  · next view hphase hcurrent =>
      obtain ⟨v, hv, hoption⟩ := Option.map_eq_some_iff.mp h
      obtain ⟨hat, havailable⟩ := Option.filter_eq_some_iff.mp hv
      exact ⟨v, ⟨⟨hphase, view, hcurrent, hat⟩, havailable⟩, hoption⟩
  · contradiction

theorem chosen?_eq_none (guard : ∀ v, ¬ s.Offers index v) :
    s.chosen? (.selectOption index) = none := by
  rw [Option.eq_none_iff_forall_not_mem]
  intro o ho
  obtain ⟨v, hv, -⟩ := exists_offers_of_chosen? ho
  exact guard v hv

theorem followed?_selectOption {v : OptionView} (h : s.Offers index v) :
    s.followed? (.selectOption index) =
      if v.option.isSkillCheck then none
      else v.option.passTarget.map (Pursuit.mk (s.charged v.option)) := by
  simp [followed?, chosen?_selectOption h]

theorem followed?_selectOption_eq_none (guard : ∀ v, ¬ s.Offers index v) :
    s.followed? (.selectOption index) = none := by
  simp [followed?, chosen?_eq_none guard]

theorem followed?_continueCheck {o : StepOption} {c : SkillCheck} (h : s.AwaitsResult o c) :
    s.followed? .continueCheck = (nextTarget o c).map (Pursuit.mk s.unburdened) := by
  obtain ⟨hphase, hpending, hlast⟩ := h
  simp [followed?, hphase, hpending, hlast]

theorem followed?_continueCheck_eq_none (guard : ∀ o c, ¬ s.AwaitsResult o c) :
    s.followed? .continueCheck = none := by
  simp only [followed?]
  split
  · next o c hphase hpending hlast => exact absurd ⟨hphase, hpending, hlast⟩ (guard o c)
  · rfl

@[simp] theorem pursued?_selectOption :
    s.pursued? (.selectOption index) = s.followed? (.selectOption index) := rfl

@[simp] theorem pursued?_continueCheck : s.pursued? .continueCheck = s.followed? .continueCheck :=
  rfl

theorem content_of_followed? (h : s.followed? a = some p) : p.session.content = s.content := by
  unfold followed? at h
  split at h
  · split at h
    · obtain ⟨target, -, rfl⟩ := Option.map_eq_some_iff.mp h
      rfl
    · contradiction
  · obtain ⟨o, -, h⟩ := Option.bind_eq_some_iff.mp h
    split at h
    · contradiction
    · obtain ⟨target, -, rfl⟩ := Option.map_eq_some_iff.mp h
      rfl

theorem content_of_pursued? (h : s.pursued? a = some p) : p.session.content = s.content := by
  unfold pursued? at h
  split at h
  · obtain rfl := Option.some.inj h
    rfl
  · exact content_of_followed? h

/-- How a pursuit ends: with a step, at a location without one, or at a target without one. -/
inductive Ends (p : Pursuit) : Turn → Prop
  | found {step : Step} {draws : Draws} (earlier : Option Mutations)
      (selected : p.session.select p.target = (some step, draws)) :
      Ends p ({ p.session with draws := draws }.load step earlier)
  | nothingHere {draws : Draws} (selected : p.session.select p.target = (none, draws)) :
      Ends p
        ⟨{ p.session with draws := draws, current := none, phase := .navigation },
          some .nothingHere, []⟩
  | lost {draws : Draws} (earlier : Option Mutations)
      (selected : p.session.select p.target = (none, draws)) :
      Ends p ({ p.session with draws := draws }.putAside.keep (some (.lost earlier)))

theorem Landing.ends {earlier : Option Mutations} {target : String}
    (h : Landing s earlier (some target) t) : Ends ⟨s, target⟩ t := by
  cases h with
  | shown selected => exact .found earlier selected
  | lost selected => exact .lost earlier selected

theorem Exit.ends (h : Exit s a t) (hp : s.pursued? a = some p) : Ends p t := by
  cases h with
  | arrived selected =>
      obtain rfl := Option.some.inj hp
      exact .found none selected
  | nothingHere selected =>
      obtain rfl := Option.some.inj hp
      exact .nothingHere selected
  | notOffered guard =>
      rw [pursued?_selectOption, followed?_selectOption_eq_none guard] at hp
      contradiction
  | asked offered check =>
      rw [pursued?_selectOption, followed?_selectOption offered, if_pos check] at hp
      contradiction
  | chosen offered plain landing =>
      rw [pursued?_selectOption, followed?_selectOption offered, plain] at hp
      obtain ⟨target, htarget, rfl⟩ := Option.map_eq_some_iff.mp hp
      rw [htarget] at landing
      exact landing.ends
  | notDecided guard =>
      rw [pursued?_continueCheck, followed?_continueCheck_eq_none guard] at hp
      contradiction
  | continued awaited landing =>
      rw [pursued?_continueCheck, followed?_continueCheck awaited] at hp
      obtain ⟨target, htarget, rfl⟩ := Option.map_eq_some_iff.mp hp
      rw [htarget] at landing
      exact landing.ends
  | _ => contradiction

end Questline.Session
