import Questline.Content.Build
import Questline.Proofs.Play.Standing
import Questline.Proofs.Text.Numerals

/-!
# Ways on from a step

A player at a step on display leaves it by an empty line if there are no options
at all, and chooses an option that is available by its number.  Either is an
action that succeeds, except that the target of an option may have no step for
the player: then he is back between steps, with an apology.  Nothing else that
is typed there is an action.
-/

namespace Questline

namespace Session

variable {s : Session} {index : Int} {v : OptionView} {o : StepOption} {t : Turn}

theorem selectOption_of_optionAt?_eq_none {view : StepView} (hphase : s.phase = .displayStep)
    (hview : s.current = some view) (hat : optionAt? view index = none) :
    s.selectOption index = s.refuse .noSuchOption := by
  simp [selectOption, hphase, hview, hat]

/-- The turn has taken the player off the step, but to no other: an option that asks for no check
has a target, and there is no step at it for the player once he has paid. -/
structure Misses (s : Session) (o : StepOption) (t : Turn) : Prop where
  plain : o.isSkillCheck = false
  target : ∃ id, o.passTarget = some id ∧
    eligibleSteps id ((s.charged o).player.effectiveCounts s.config) s.content.steps = []
  outcome : t.outcome = some (.lost (some (s.charge o)))
  current : t.session.current = none
  phase : t.session.phase = restPhase t.session.player

theorem Landing.isOk_or_misses (h : Landing (s.charged o) (some (s.charge o)) o.passTarget t)
    (plain : o.isSkillCheck = false) :
    (∃ result, t.outcome = some result ∧ result.isOk = true) ∨ s.Misses o t := by
  generalize htarget : o.passTarget = target at h
  cases h with
  | shown => exact .inl ⟨_, rfl, rfl⟩
  | @lost id draws selected =>
      have hnone : ((s.charged o).select id).1 = none := by rw [selected]
      exact .inr ⟨plain, ⟨id, htarget, select_fst_eq_none_iff.mp hnone⟩, rfl, rfl, rfl⟩
  | ended => exact .inl ⟨_, rfl, rfl⟩

/-- Choosing an option that is offered does what it was meant to do, or misses. -/
theorem isOk_or_misses_of_offers (h : s.Offers index v) :
    (∃ result, (s.selectOption index).outcome = some result ∧ result.isOk = true) ∨
      s.Misses v.option (s.selectOption index) := by
  rw [h.selectOption_eq, chooseOption_eq]
  split
  · exact .inl ⟨_, rfl, rfl⟩
  · next hplain =>
      have plain : v.option.isSkillCheck = false := by simpa using hplain
      cases htarget : v.option.passTarget with
      | some target =>
          have hlanding := follow_landing (s.charged v.option) target (some (s.charge v.option))
          rw [← htarget] at hlanding
          exact hlanding.isOk_or_misses plain
      | none =>
          have hlanding : Landing (s.charged v.option) (some (s.charge v.option)) none _ := .ended
          rw [← htarget] at hlanding
          exact hlanding.isOk_or_misses plain

end Session

namespace Play

variable {p q : Play} {line : String} {a : Session.Action} {i : Nat} {v : OptionView}

/-! ## What is typed at a step -/

theorem understand_of_canLeave (stage : p.stage = .choosing) (way : canLeave p.session = true) :
    p.understand "" = .perform .leave := by
  have hblank : Text.lower (Text.trim "") = "" := rfl
  rw [understand_of_choosing stage, hblank, choosing, way]
  rfl

theorem isNumber_toString (n : Nat) : isNumber (toString n) = true := by
  have hgiven : (toString n).isEmpty = false := by
    rw [← Bool.not_eq_true, String.isEmpty_iff]
    intro hempty
    have hdigits := Text.toList_toString n
    rw [hempty] at hdigits
    exact Nat.toDigits_ne_nil hdigits.symm
  rw [isNumber, hgiven, Bool.not_false, Bool.true_and, List.all_eq_true]
  exact fun d hd => Text.isDigit_of_isDigit (Text.isDigit_of_mem_toString hd)

theorem understand_toString (stage : p.stage = .choosing)
    (written : Text.isWritable ((i + 1 : Nat) : Int) = true) :
    p.understand (toString (i + 1)) = .perform (.selectOption i) := by
  rw [understand_of_choosing stage, Text.trim_toString, Text.lower_toString,
    choosing_of_isNumber (isNumber_toString _), numbered, Text.integer?_toString written]
  simp

/-! ## Ways on -/

/-- The line leaves the step on display. -/
structure LeavesBy (p : Play) (line : String) : Prop where
  order : p.understand line = .perform .leave
  attempt : p.session.attempt .leave = .ok p.session.leave
  outcome : p.session.leave.outcome = some (.ended none)
  current : p.session.leave.session.current = none

/-- The line chooses an option of the step on display. -/
structure ChoosesBy (p : Play) (line : String) (i : Nat) (v : OptionView) : Prop where
  order : p.understand line = .perform (.selectOption i)
  attempt : p.session.attempt (.selectOption i) = .ok (p.session.selectOption i) ∨
    (Player.roomLimit : Int) < (p.session.selectOption i).session.player.level p.session.config
  outcome :
    (∃ result, (p.session.selectOption i).outcome = some result ∧ result.isOk = true) ∨
      p.session.Misses v.option (p.session.selectOption i)

theorem leavesBy_of_options_eq_nil {view : StepView} (stage : p.stage = .choosing)
    (hview : p.session.current = some view) (hnone : view.options = []) : p.LeavesBy "" where
  order := understand_of_canLeave stage (by simp [canLeave, hview, hnone])
  attempt := rfl
  outcome := rfl
  current := rfl

theorem choosesBy_of_offers (stage : p.stage = .choosing) (hs : p.session.Readable)
    (hconfig : p.session.config.IsClamped) (h : p.session.Offers i v)
    (written : Text.isWritable ((i + 1 : Nat) : Int) = true) :
    p.ChoosesBy (toString (i + 1)) i v where
  order := understand_toString stage written
  attempt := (hs.attempt_eq_ok_or hconfig (.selectOption i)).imp_right And.left
  outcome := Session.isOk_or_misses_of_offers h

/-- Wherever a conversation on content that was built has come to a step on display: an empty line
leaves the step if it has no options, and an option that is available is chosen by its number. -/
theorem way_on_from_step {source : Option String} {payload : Payload} {content : Content}
    (built : Content.build source payload = .ok content) {player : Option Player} {draws : Draws}
    {lines : List String} (reached : reached? (.begin content player draws) lines = some q)
    (shown : q.session.phase = .displayStep) :
    ∃ view, q.session.current = some view ∧ (view.options = [] → q.LeavesBy "") ∧
      ∀ i v, view.options[i]? = some v → v.available = true →
        Text.isWritable ((i + 1 : Nat) : Int) = true → q.ChoosesBy (toString (i + 1)) i v := by
  have hstage : q.stage = .choosing := by
    cases stands_of_reached? reached with
    | making fresh session =>
        rw [session, fresh] at shown
        contradiction
    | playing _ _ _ stage =>
        rw [stage, shown]
        rfl
  obtain ⟨view, hview⟩ : ∃ view, q.session.current = some view := by
    refine Option.isSome_iff_exists.mp ((coherent_of_reached? reached).current_isSome ?_)
    rw [shown]
    rfl
  refine ⟨view, hview, leavesBy_of_options_eq_nil hstage hview, ?_⟩
  intro i v hat havailable written
  have hoffers : q.session.Offers i v := by
    refine ⟨⟨shown, view, hview, ?_⟩, havailable⟩
    simpa [Session.optionAt?] using hat
  exact choosesBy_of_offers hstage (readable_of_reached? built reached)
    (isClamped_of_reached? built reached) hoffers written

def handOver : OptionView where
  index := 0
  option := { label := "Hand over the pass", tags := ["-pass"], passTarget := some "Hall" }
  label := "Hand over the pass"
  available := true
  missing := []

/-- At the turnstile the pass is handed over by the number one. -/
theorem way_on_from_turnstile :
    Content.build none (.ofJson Session.turnstile) = .ok Session.turnstileContent ∧
      ∃ q, reached? (.begin Session.turnstileContent none {}) ["Ada", "Gate"] = some q ∧
        q.session.phase = .displayStep ∧ q.ChoosesBy "1" 0 handOver := by
  have hbuilt : Content.build none (.ofJson Session.turnstile) = .ok Session.turnstileContent := rfl
  have hplace : (reached? (.begin Session.turnstileContent none {}) ["Ada", "Gate"]).map (fun q =>
      (q.session.phase, q.session.current.map (·.options))) =
        some (.displayStep, some [handOver]) := by
    decide +kernel
  obtain ⟨q, hq, hplace⟩ := Option.map_eq_some_iff.mp hplace
  simp only [Prod.mk.injEq] at hplace
  obtain ⟨hphase, hoptions⟩ := hplace
  obtain ⟨view, hview, -, hways⟩ := way_on_from_step hbuilt hq hphase
  have hoption : view.options[0]? = some handOver := by
    rw [hview, Option.map_some, Option.some.injEq] at hoptions
    rw [hoptions]
    rfl
  exact ⟨hbuilt, q, hq, hphase, hways 0 handOver hoption rfl (by decide)⟩

/-- A gate that opens to the holder of a key only, and a hall with a door to nowhere. -/
def deadEnds : Json :=
  .obj [("steps", .arr [
      .obj [("id", .str "Gate"), ("text", .str "A gate."), ("options", .arr [
        .obj [("label", .str "Open"), ("tags", .arr [.str "key"])]])],
      .obj [("id", .str "Hall"), ("text", .str "A hall."), ("options", .arr [
        .obj [("label", .str "Enter"), ("pass", .str "Nowhere")]])]])]

def deadEndContent : Content where
  steps :=
    [{ id := "Gate", text := "A gate.", options := [{ label := "Open", tags := ["key"] }] },
      { id := "Hall", text := "A hall.",
        options := [{ label := "Enter", passTarget := some "Nowhere" }] }]

/-- With a single option on display, no line does more than choose it. -/
theorem not_isOk_of_single {view : StepView} (stage : p.stage = .choosing)
    (hphase : p.session.phase = .displayStep) (hview : p.session.current = some view)
    (hsingle : view.options.length = 1)
    (hfirst : (p.session.selectOption 0).outcome.any Outcome.isOk = false)
    (order : p.understand line = .perform a) :
    (p.session.perform a).outcome.any Outcome.isOk = false := by
  rcases (understand_understood p line).of_choosing order stage with ⟨rfl, way⟩ | ⟨n, rfl⟩
  · have hnone : view.options = [] := by simpa [canLeave, hview] using way
    rw [hnone] at hsingle
    contradiction
  · by_cases hn : n = 0
    · rw [hn]
      exact hfirst
    · have hat : Session.optionAt? view n = none := by
        unfold Session.optionAt?
        split
        · rfl
        · exact List.getElem?_eq_none (by omega)
      rw [Session.perform, Session.selectOption_of_optionAt?_eq_none hphase hview hat]
      rfl

/-- At the gate the only option is not available, and in the hall it misses: no line is an action
that succeeds. -/
theorem way_on_can_be_missing :
    Content.build none (.ofJson deadEnds) = .ok deadEndContent ∧
      ∀ id ∈ ["Gate", "Hall"], ∃ q,
        reached? (.begin deadEndContent (some {}) {}) [id] = some q ∧
          q.session.phase = .displayStep ∧
          ∀ line a, q.understand line = .perform a →
            (q.session.perform a).outcome.any Outcome.isOk = false := by
  refine ⟨rfl, fun id hid => ?_⟩
  have hplaces : ∀ id ∈ ["Gate", "Hall"],
      (reached? (.begin deadEndContent (some {}) {}) [id]).map (fun q =>
          (q.stage, q.session.phase, q.session.current.map (·.options.length),
            (q.session.selectOption 0).outcome.any Outcome.isOk)) =
        some (.choosing, .displayStep, some 1, false) := by
    decide +kernel
  obtain ⟨q, hq, hplace⟩ := Option.map_eq_some_iff.mp (hplaces id hid)
  simp only [Prod.mk.injEq] at hplace
  obtain ⟨stage, hphase, hlength, hfirst⟩ := hplace
  obtain ⟨view, hview, hsingle⟩ := Option.map_eq_some_iff.mp hlength
  exact ⟨q, hq, hphase, fun line a => not_isOk_of_single stage hphase hview hsingle hfirst⟩

end Play

end Questline
