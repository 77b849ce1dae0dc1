import Questline.Pursuit

/-!
# Turns of a session

What one action of the player can lead to.  `perform_exit` lists the exits of
all actions with their guards; what holds after an action is read off that
list, one case per exit, and `run_induction` carries it through a run.
-/

namespace Questline.Session

variable {s : Session} {a : Action} {t : Turn}

/-- The displayed step has an option at the index. -/
def Displays (s : Session) (index : Int) (v : OptionView) : Prop :=
  s.phase = .displayStep ∧ ∃ view, s.current = some view ∧ optionAt? view index = some v

/-- The displayed step has an option at the index, and shows it as available. -/
def Offers (s : Session) (index : Int) (v : OptionView) : Prop :=
  s.Displays index v ∧ v.available = true

theorem Offers.selectOption_eq {index : Int} {v : OptionView} (h : s.Offers index v) :
    s.selectOption index = s.chooseOption v.option := by
  obtain ⟨⟨hphase, view, hview, hat⟩, havailable⟩ := h
  simp only [selectOption, hphase, hview, hat, havailable, if_true]

/-- An option with a difficulty waits for a roll. -/
def AwaitsRoll (s : Session) (o : StepOption) (dc : Int) : Prop :=
  s.phase = .skillCheckRoll ∧ s.pendingOption = some o ∧ o.dc = some dc

/-- The result of a roll waits to be acted upon. -/
def AwaitsResult (s : Session) (o : StepOption) (c : SkillCheck) : Prop :=
  s.phase = .skillCheckResult ∧ s.pendingOption = some o ∧ s.lastResult = some c

/-- The actions that are answered with an outcome. -/
def Action.answers : Action → Bool
  | .start _ _ => false
  | .increaseStat _ => false
  | _ => true

/-- Where a turn ends that goes to a target, or nowhere. -/
inductive Landing (s : Session) (earlier : Option Mutations) : Option String → Turn → Prop
  | shown {target : String} {step : Step} {draws : Draws}
      (selected : s.select target = (some step, draws)) :
      Landing s earlier (some target) ({ s with draws := draws }.load step earlier)
  | lost {target : String} {draws : Draws} (selected : s.select target = (none, draws)) :
      Landing s earlier (some target)
        ({ s with draws := draws }.putAside.keep (some (.lost earlier)))
  | ended : Landing s earlier none (s.endInteraction earlier)

/-- The exits of every action. -/
inductive Exit (s : Session) : Action → Turn → Prop
  | started (name : Option String) (chosen : Stat → Option Int) :
      Exit s (.start name chosen) (s.start name chosen)
  | arrived {location : String} {step : Step} {draws : Draws}
      (selected : s.unburdened.select (destination s.content location) = (some step, draws)) :
      Exit s (.navigate location) ({ s.unburdened with draws := draws }.load step none)
  | nothingHere {location : String} {draws : Draws}
      (selected : s.unburdened.select (destination s.content location) = (none, draws)) :
      Exit s (.navigate location)
        ⟨{ s.unburdened with draws := draws, current := none, phase := .navigation },
          some .nothingHere, []⟩
  | notOffered {index : Int} {why : Refusal} (guard : ∀ v, ¬ s.Offers index v) :
      Exit s (.selectOption index) (s.refuse why)
  | asked {index : Int} {v : OptionView} (offered : s.Offers index v)
      (check : v.option.isSkillCheck = true) :
      Exit s (.selectOption index)
        ({ s.charged v.option with pendingOption := some v.option, phase := .skillCheckRoll }.keep
          (some (.checkPending v.option (s.charge v.option))))
  | chosen {index : Int} {v : OptionView} {t : Turn} (offered : s.Offers index v)
      (plain : v.option.isSkillCheck = false)
      (landing : Landing (s.charged v.option) (some (s.charge v.option)) v.option.passTarget t) :
      Exit s (.selectOption index) t
  | notPending {announced : Option Int} (guard : ∀ o dc, ¬ s.AwaitsRoll o dc) :
      Exit s (.rollCheck announced) (s.refuse .noCheckPending)
  | rolled {announced : Option Int} {o : StepOption} {dc : Int} (awaited : s.AwaitsRoll o dc) :
      Exit s (.rollCheck announced)
        (let (check, draws) := checkSkills s.config o.skills dc s.player announced s.draws
        ⟨{ s with draws := draws, lastResult := some check, phase := .skillCheckResult },
          some (.checked o check), []⟩)
  | notDecided (guard : ∀ o c, ¬ s.AwaitsResult o c) :
      Exit s .continueCheck (s.refuse .noResultPending)
  | continued {o : StepOption} {c : SkillCheck} {t : Turn} (awaited : s.AwaitsResult o c)
      (landing : Landing s.unburdened none (nextTarget o c) t) : Exit s .continueCheck t
  | raised (stat : Stat) : Exit s (.increaseStat stat) (s.increaseStat stat)
  | left : Exit s .leave (s.endInteraction none)

theorem follow_landing (s : Session) (target : String) (earlier : Option Mutations) :
    Landing s earlier (some target) (s.follow target earlier) := by
  unfold follow
  split
  · next step draws h => exact .shown h
  · next draws h => exact .lost h

theorem navigate_eq (s : Session) (location : String) :
    s.navigate location =
      match s.unburdened.select (destination s.content location) with
      | (some step, draws) => { s.unburdened with draws := draws }.load step none
      | (none, draws) =>
        ⟨{ s.unburdened with draws := draws, current := none, phase := .navigation },
          some .nothingHere, []⟩ := rfl

theorem navigate_exit (s : Session) (location : String) :
    Exit s (.navigate location) (s.navigate location) := by
  rw [navigate_eq]
  split
  · next step draws h => exact .arrived h
  · next draws h => exact .nothingHere h

theorem chooseOption_eq (s : Session) (o : StepOption) :
    s.chooseOption o =
      if o.isSkillCheck then
        { s.charged o with pendingOption := some o, phase := .skillCheckRoll }.keep
          (some (.checkPending o (s.charge o)))
      else
        match o.passTarget with
        | some target => (s.charged o).follow target (some (s.charge o))
        | none => (s.charged o).endInteraction (some (s.charge o)) := rfl

theorem chooseOption_exit {index : Int} {v : OptionView} (h : s.Offers index v) :
    Exit s (.selectOption index) (s.chooseOption v.option) := by
  rw [chooseOption_eq]
  split
  · next hcheck => exact .asked h hcheck
  · next hcheck =>
      refine .chosen h (by simpa using hcheck) ?_
      split
      · next target htarget => exact htarget ▸ follow_landing _ target _
      · next htarget => exact htarget ▸ .ended

theorem selectOption_exit (s : Session) (index : Int) :
    Exit s (.selectOption index) (s.selectOption index) := by
  unfold selectOption
  split
  · next view hphase hcurrent =>
      split
      · next hnone =>
          refine .notOffered ?_
          rintro v ⟨⟨-, view', hview, hat⟩, -⟩
          simp_all
      · next v hat =>
          split
          · next havailable => exact chooseOption_exit ⟨⟨hphase, view, hcurrent, hat⟩, havailable⟩
          · next havailable =>
              refine .notOffered ?_
              rintro v' ⟨⟨-, view', hview, hat'⟩, hv⟩
              simp_all
  · next hnot =>
      refine .notOffered ?_
      rintro v ⟨⟨hphase, view, hview, -⟩, -⟩
      exact hnot view hphase hview

theorem rollCheck_exit (s : Session) (announced : Option Int) :
    Exit s (.rollCheck announced) (s.rollCheck announced) := by
  unfold rollCheck
  split
  · next o hphase hpending =>
      split
      · next hdc =>
          refine .notPending ?_
          rintro o' dc ⟨-, hpending', hdc'⟩
          simp_all
      · next dc hdc => exact .rolled ⟨hphase, hpending, hdc⟩
  · next hnot =>
      refine .notPending ?_
      rintro o dc ⟨hphase, hpending, -⟩
      exact hnot o hphase hpending

theorem continueCheck_exit (s : Session) : Exit s .continueCheck s.continueCheck := by
  unfold continueCheck
  split
  · next o c hphase hpending hlast =>
      refine .continued ⟨hphase, hpending, hlast⟩ ?_
      simp only
      split
      · next target htarget => exact htarget ▸ follow_landing _ target _
      · next htarget => exact htarget ▸ .ended
  · next hnot =>
      refine .notDecided ?_
      rintro o c ⟨hphase, hpending, hlast⟩
      exact hnot o c hphase hpending hlast

/-- Every action ends in one of its exits. -/
theorem perform_exit (s : Session) (a : Action) : Exit s a (s.perform a) := by
  cases a with
  | start name chosen => exact .started name chosen
  | navigate location => exact navigate_exit s location
  | selectOption index => exact selectOption_exit s index
  | rollCheck announced => exact rollCheck_exit s announced
  | continueCheck => exact continueCheck_exit s
  | increaseStat stat => exact .raised stat
  | leave => exact .left

/-- What the actions of a run are answered with, in order. -/
def outcomes (s : Session) : List Action → List (Option Outcome)
  | [] => []
  | a :: as => (s.perform a).outcome :: (s.perform a).session.outcomes as

/-- What every action preserves holds after a run. -/
theorem run_induction {P : Session → Prop} (h : P s)
    (step : ∀ s a, P s → P (s.perform a).session) (as : List Action) : P (s.run as) := by
  induction as generalizing s with
  | nil => exact h
  | cons a as ih => exact ih (step s a h)

/-! ## Content -/

theorem Landing.content {earlier : Option Mutations} {target : Option String}
    (h : Landing s earlier target t) : t.session.content = s.content := by
  cases h <;> rfl

theorem Exit.content (h : Exit s a t) : t.session.content = s.content := by
  cases h with
  | chosen _ _ landing => exact landing.content
  | continued _ landing => exact landing.content
  | _ => rfl

theorem content_run (s : Session) (as : List Action) : (s.run as).content = s.content :=
  run_induction (P := fun r => r.content = s.content) rfl
    (fun r a hr => (perform_exit r a).content.trans hr) as

end Questline.Session
