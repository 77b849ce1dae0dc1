import Questline.Proofs.Player.Shuffling
import Questline.Proofs.Session.Accounts
import Questline.Proofs.Session.Keeping
import Mathlib.Data.List.Forall2

/-!
# Sessions and the order of tags

Two sessions that differ in nothing but the order of the player's tags answer
every action alike and differ in nothing else afterwards.  Numbers drawn in the
past make no difference either; the numbers still to come do.
-/

namespace Questline

theorem Player.Shuffled.restPhase {p q : Player} (h : p.Shuffled q) :
    Session.restPhase p = Session.restPhase q := by
  rw [Session.restPhase, Session.restPhase, h.leveledUp]

theorem Player.Shuffled.showPhase {p q : Player} (h : p.Shuffled q) :
    Session.showPhase p = Session.showPhase q := by
  rw [Session.showPhase, Session.showPhase, h.leveledUp]

variable {s r : Session} {t u : Turn} {d e : Draws}

structure Session.Shuffled (s r : Session) : Prop where
  content : s.content = r.content
  player : s.player.Shuffled r.player
  phase : s.phase = r.phase
  current : s.current = r.current
  pendingOption : s.pendingOption = r.pendingOption
  lastResult : s.lastResult = r.lastResult
  pending : s.draws.pending = r.draws.pending

/-- Turns with the same outcome that end, and hand over players, alike up to the order of tags. -/
structure Turn.Shuffled (t u : Turn) : Prop where
  session : t.session.Shuffled u.session
  outcome : t.outcome = u.outcome
  kept : List.Forall₂ Player.Shuffled t.kept u.kept

/-- Pursuits of the same target by sessions alike up to the order of tags. -/
structure Pursuit.Shuffled (p q : Pursuit) : Prop where
  session : p.session.Shuffled q.session
  target : p.target = q.target

namespace Session.Shuffled

theorem config (h : s.Shuffled r) : s.config = r.config := congrArg Content.config h.content

theorem keep (h : s.Shuffled r) (outcome : Option Outcome) :
    (s.keep outcome).Shuffled (r.keep outcome) where
  session := h
  outcome := rfl
  kept := .cons h.player .nil

theorem refuse (h : s.Shuffled r) (why : Refusal) : (s.refuse why).Shuffled (r.refuse why) where
  session := h
  outcome := rfl
  kept := .nil

/-! ## Ways to a step -/

theorem select (h : s.Shuffled r) (id : String) :
    (s.select id).1 = (r.select id).1 ∧ (s.select id).2.pending = (r.select id).2.pending := by
  unfold Session.select
  rw [h.config, h.content, h.player.effectiveCounts]
  exact Draws.choose_congr h.pending _

theorem composed (h : s.Shuffled r) (step : Step) : s.composed step = r.composed step := by
  rw [Session.composed, Session.composed, h.config, h.content, h.player.effectiveCounts]

theorem load (h : s.Shuffled r) (step : Step) (earlier : Option Mutations) :
    (s.load step earlier).Shuffled (r.load step earlier) := by
  have hexecuted := h.player.execute h.pending r.config (r.composed step)
  have hplayer := hexecuted.player.map
    (f := fun p => { p with currentStepId := some step.id }) fun _ _ => rfl
  have hoptions := hplayer.visibleOptions r.config (r.composed step).options
  unfold Session.load
  simp only [h.config, h.composed]
  rw [hexecuted.text, hexecuted.mutations, hoptions]
  apply keep
  constructor
  · exact h.content
  · exact hplayer
  · exact hplayer.showPhase
  · rfl
  · exact h.pendingOption
  · exact h.lastResult
  · exact hexecuted.pending

theorem putAside (h : s.Shuffled r) : s.putAside.Shuffled r.putAside := by
  have hplayer := h.player.map (f := fun p => { p with currentStepId := none }) fun _ _ => rfl
  constructor
  · exact h.content
  · exact hplayer
  · exact hplayer.restPhase
  · rfl
  · exact h.pendingOption
  · exact h.lastResult
  · exact h.pending

/-- Any two sources of the same numbers may take the place of the draws. -/
theorem drawn (h : s.Shuffled r) (hdraws : d.pending = e.pending) :
    Session.Shuffled { s with draws := d } { r with draws := e } :=
  { h with pending := hdraws }

theorem follow (h : s.Shuffled r) (target : String) (earlier : Option Mutations) :
    (s.follow target earlier).Shuffled (r.follow target earlier) := by
  obtain ⟨hstep, hrest⟩ := h.select target
  unfold Session.follow
  generalize s.select target = x at hstep hrest ⊢
  generalize r.select target = y at hstep hrest ⊢
  obtain ⟨step, d⟩ := x
  obtain ⟨_, e⟩ := y
  cases hstep
  cases step with
  | some step => exact (h.drawn hrest).load step earlier
  | none => exact (h.drawn hrest).putAside.keep _

theorem endInteraction (h : s.Shuffled r) (mutations : Option Mutations) :
    (s.endInteraction mutations).Shuffled (r.endInteraction mutations) := by
  have hcleared :
      Session.Shuffled { s with pendingOption := none } { r with pendingOption := none } :=
    { h with pendingOption := rfl }
  exact hcleared.putAside.keep _

/-! ## Actions -/

theorem start (h : s.Shuffled r) (name : Option String) (chosen : Stat → Option Int) :
    (s.start name chosen).Shuffled (r.start name chosen) := by
  unfold Session.start
  rw [h.config]
  apply keep
  exact ⟨h.content, .refl _, rfl, rfl, rfl, rfl, h.pending⟩

theorem unburdened (h : s.Shuffled r) : s.unburdened.Shuffled r.unburdened :=
  { h with pendingOption := rfl, lastResult := rfl }

theorem navigate (h : s.Shuffled r) (location : String) :
    (s.navigate location).Shuffled (r.navigate location) := by
  have hfree := h.unburdened
  obtain ⟨hstep, hrest⟩ := hfree.select (destination s.content location)
  rw [navigate_eq, navigate_eq, ← h.content]
  generalize s.unburdened.select (destination s.content location) = x at hstep hrest ⊢
  generalize r.unburdened.select (destination s.content location) = y at hstep hrest ⊢
  obtain ⟨step, d⟩ := x
  obtain ⟨_, e⟩ := y
  cases hstep
  cases step with
  | some step => exact (hfree.drawn hrest).load step none
  | none =>
      constructor
      · exact { hfree.drawn hrest with phase := rfl, current := rfl }
      · rfl
      · exact .nil

/-- What an option costs. -/
theorem charged (h : s.Shuffled r) (o : StepOption) :
    (s.charged o).Shuffled (r.charged o) ∧ s.charge o = r.charge o := by
  obtain ⟨hplayer, hreport⟩ := h.player.mutate r.config o.tags
  rw [Session.charged, Session.charged, Session.charge, Session.charge, h.config]
  exact ⟨{ h with player := hplayer }, hreport⟩

theorem chooseOption (h : s.Shuffled r) (o : StepOption) :
    (s.chooseOption o).Shuffled (r.chooseOption o) := by
  obtain ⟨hcharged, hcharge⟩ := h.charged o
  rw [chooseOption_eq, chooseOption_eq, hcharge]
  split
  · apply keep
    exact { hcharged with phase := rfl, pendingOption := rfl }
  · cases o.passTarget with
    | some target => exact hcharged.follow target _
    | none => exact hcharged.endInteraction _

theorem selectOption (h : s.Shuffled r) (index : Int) :
    (s.selectOption index).Shuffled (r.selectOption index) := by
  unfold Session.selectOption
  rw [h.phase, h.current]
  split
  · split
    · exact h.refuse _
    · split
      · exact h.chooseOption _
      · exact h.refuse _
  · exact h.refuse _

theorem rollCheck (h : s.Shuffled r) (announced : Option Int) :
    (s.rollCheck announced).Shuffled (r.rollCheck announced) := by
  unfold Session.rollCheck
  rw [h.phase, h.pendingOption, h.config]
  split
  · next o _ _ =>
      split
      · exact h.refuse _
      · next dc _ =>
          obtain ⟨hcheck, hrest⟩ := h.player.checkSkills h.pending r.config o.skills dc announced
          constructor
          · constructor
            · exact h.content
            · exact h.player
            · rfl
            · exact h.current
            · rfl
            · exact congrArg some hcheck
            · exact hrest
          · exact congrArg (fun c => some (Outcome.checked o c)) hcheck
          · exact .nil
  · exact h.refuse _

theorem continueCheck (h : s.Shuffled r) : s.continueCheck.Shuffled r.continueCheck := by
  unfold Session.continueCheck
  rw [h.phase, h.pendingOption, h.lastResult]
  split
  · next o c _ _ _ =>
      have hfree := h.unburdened
      dsimp only
      split
      · exact hfree.follow _ none
      · exact hfree.endInteraction none
  · exact h.refuse _

theorem increaseStat (h : s.Shuffled r) (stat : Stat) :
    (s.increaseStat stat).Shuffled (r.increaseStat stat) := by
  have hplayer := h.player.map (f := fun p => p.increaseStat stat r.config.statIncreaseAmount)
    fun _ _ => rfl
  unfold Session.increaseStat
  rw [h.config, h.current]
  apply keep
  exact { h with player := hplayer, phase := rfl, current := rfl }

theorem perform (h : s.Shuffled r) (a : Action) : (s.perform a).Shuffled (r.perform a) := by
  cases a with
  | start name chosen => exact h.start name chosen
  | navigate location => exact h.navigate location
  | selectOption index => exact h.selectOption index
  | rollCheck announced => exact h.rollCheck announced
  | continueCheck => exact h.continueCheck
  | increaseStat stat => exact h.increaseStat stat
  | leave => exact h.endInteraction none

end Session.Shuffled

/-! ## What stops an action -/

theorem Pursuit.Shuffled.tokens {p q : Pursuit} (h : p.Shuffled q) : p.tokens = q.tokens := by
  obtain ⟨p, id⟩ := p
  obtain ⟨q, _⟩ := q
  obtain ⟨hsession, rfl⟩ := h
  have hcontent : p.content = q.content := hsession.content
  have hcounts : Pursuit.counts ⟨p, id⟩ = Pursuit.counts ⟨q, id⟩ := by
    rw [Pursuit.counts, Pursuit.counts, hsession.config, hsession.player.effectiveCounts]
  have hfound : Pursuit.found? ⟨p, id⟩ = Pursuit.found? ⟨q, id⟩ := (hsession.select id).1
  have hmet : Pursuit.tokensMet ⟨p, id⟩ = Pursuit.tokensMet ⟨q, id⟩ := by
    funext step
    simp only [Pursuit.tokensMet, Pursuit.patchesTried, hcounts, hcontent, hsession.composed]
  rw [Pursuit.tokens, Pursuit.tokens, hfound, hmet, Pursuit.tokensSought, Pursuit.tokensSought,
    hcounts, hcontent]

namespace Session.Shuffled

theorem chosen? (h : s.Shuffled r) (a : Action) : s.chosen? a = r.chosen? a := by
  unfold Session.chosen?
  rw [h.phase, h.current]

theorem followed? (h : s.Shuffled r) (a : Action) :
    Option.Rel Pursuit.Shuffled (s.followed? a) (r.followed? a) := by
  unfold Session.followed?
  rw [h.phase, h.pendingOption, h.lastResult]
  split
  · split
    · next o c _ _ _ =>
        cases nextTarget o c with
        | some target => exact .some ⟨h.unburdened, rfl⟩
        | none => exact .none
    · exact .none
  · rw [h.chosen?]
    cases r.chosen? _ with
    | none => exact .none
    | some o =>
        dsimp only [Option.bind_eq_bind, Option.bind_some]
        split
        · exact .none
        · cases o.passTarget with
          | some target => exact .some ⟨(h.charged o).1, rfl⟩
          | none => exact .none

theorem pursued? (h : s.Shuffled r) (a : Action) :
    Option.Rel Pursuit.Shuffled (s.pursued? a) (r.pursued? a) := by
  unfold Session.pursued?
  split
  · exact .some ⟨h.unburdened, congrArg (destination · _) h.content⟩
  · exact h.followed? _

theorem check (h : s.Shuffled r) (a : Action) : s.check a = r.check a := by
  have hlevel := (h.perform a).session.player.checkLevel r.config
  unfold Session.check
  rw [h.chosen?, h.config, hlevel]
  have hpursued := h.pursued? a
  generalize s.pursued? a = x at hpursued ⊢
  generalize r.pursued? a = y at hpursued ⊢
  cases hpursued with
  | none => rfl
  | some hp => simp only [hp.session.player.checkLevel, hp.tokens]

/-! ## Runs -/

theorem run (h : s.Shuffled r) (as : List Action) : (s.run as).Shuffled (r.run as) := by
  induction as generalizing s r with
  | nil => exact h
  | cons a as ih => exact ih (h.perform a).session

theorem outcomes (h : s.Shuffled r) (as : List Action) : s.outcomes as = r.outcomes as := by
  induction as generalizing s r with
  | nil => rfl
  | cons a as ih =>
      have hturn := h.perform a
      rw [Session.outcomes, Session.outcomes, hturn.outcome, ih hturn.session]

theorem keptAlong (h : s.Shuffled r) (as : List Action) :
    List.Forall₂ Player.Shuffled (s.keptAlong as) (r.keptAlong as) := by
  induction as generalizing s r with
  | nil => exact .nil
  | cons a as ih =>
      have hturn := h.perform a
      exact List.rel_append hturn.kept (ih hturn.session)

end Session.Shuffled

namespace Session

/-- The order in which tags are held is never observable: two sessions that differ in it alone give
the same outcomes to the same actions, one by one, hand over players who differ in it alone, and
end in two sessions that differ in it alone, which are stopped by the same things and whose players
are told the same about themselves. -/
theorem order_of_tags_unobservable (h : s.Shuffled r) (as : List Action) :
    s.outcomes as = r.outcomes as ∧
      List.Forall₂ Player.Shuffled (s.keptAlong as) (r.keptAlong as) ∧
      (s.run as).Shuffled (r.run as) ∧
      (∀ a, (s.run as).check a = (r.run as).check a) ∧
      (s.run as).player.inventory = (r.run as).player.inventory ∧
      (∀ lead, (s.run as).player.grouped lead = (r.run as).player.grouped lead) ∧
      (s.run as).player.summary = (r.run as).player.summary := by
  have hrun := h.run as
  exact ⟨h.outcomes as, h.keptAlong as, hrun, hrun.check, hrun.player.inventory,
    hrun.player.grouped, hrun.player.summary⟩

/-- The rope and the coin have changed places, and nobody can tell. -/
theorem order_of_tags_unobservable_at_court :
    let s := begin courtContent (some { tags := ["inv:rope", "quest", "inv:coin"] }) {}
    let r := begin courtContent (some { tags := ["inv:coin", "inv:rope", "quest"] }) {}
    let as : List Action := [.navigate "Gate", .selectOption 0]
    s.Shuffled r ∧ (s.run as).player.tags ≠ (r.run as).player.tags ∧
      s.outcomes as = r.outcomes as ∧
      (s.run as).player.summary = (r.run as).player.summary := by
  intro s r as
  have hshuffled : s.Shuffled r := by
    constructor
    · rfl
    · exact .intro (by decide)
    all_goals rfl
  obtain ⟨houtcomes, -, -, -, -, -, hsummary⟩ := order_of_tags_unobservable hshuffled as
  exact ⟨hshuffled, by decide +kernel, houtcomes, hsummary⟩

end Session

end Questline
