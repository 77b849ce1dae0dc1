import Questline.Proofs.Matching.Agreement
import Questline.Proofs.Session.Coherence

/-!
# Available options

Whether an option is available is settled when its step is shown, for the
player as of then.  A session remembers neither that player nor that the
display has become outdated; `Showing` does.  The display is outdated once a
skill check is broken off by raising a stat: the option that asked for the
check has been paid for, and the step comes back as it was shown before.
-/

namespace Questline

namespace Session

/-- What a session does not keep of the step on display: the player it was shown to, and whether a
skill check was broken off since. -/
structure Showing where
  player : Player
  broken : Bool := false

/-- Raising a stat during a skill check brings back the step without a result. -/
def breaksOff (s : Session) : Action → Bool
  | .increaseStat _ => s.phase.isCheck
  | _ => false

/-- A step that is shown is shown to the player at the end of the turn. -/
def Showing.next (w : Showing) (s : Session) (a : Action) (t : Turn) : Showing :=
  match t.outcome.bind Outcome.view? with
  | some _ => { player := t.session.player }
  | none => { w with broken := w.broken || s.breaksOff a }

/-- To whom the step on display was shown after a list of actions. -/
def showing (s : Session) (w : Showing) : List Action → Showing
  | [] => w
  | a :: as => (s.perform a).session.showing (w.next s a (s.perform a)) as

/-- The options on display are flagged for the player they were shown to, who counts as many tags
as the present one unless a skill check is under way or was broken off. -/
structure FlaggedFor (s : Session) (w : Showing) : Prop where
  flags : ∀ view, s.current = some view → ∀ v ∈ view.options,
    v.available = isAvailable s.config v.option (w.player.effectiveCounts s.config)
  counts : w.broken = false → s.current.isSome → s.phase.isCheck = false →
    w.player.effectiveCounts s.config = s.player.effectiveCounts s.config

namespace FlaggedFor

theorem of_current_eq_none {s : Session} (h : s.current = none) (w : Showing) :
    s.FlaggedFor w where
  flags := by simp [h]
  counts := by simp [h]

theorem load (s : Session) (step : Step) (earlier : Option Mutations) :
    (s.load step earlier).session.FlaggedFor
      { player := (s.load step earlier).session.player } where
  flags := by
    rintro view ⟨⟩ v hv
    exact available_of_mem_visibleOptions hv
  counts := fun _ _ _ => rfl

end FlaggedFor

variable {s : Session} {a : Action} {t : Turn} {w : Showing}

theorem Showing.next_refuse (h : s.breaksOff a = false) (why : Refusal) :
    w.next s a (s.refuse why) = w := by
  simp [Showing.next, refuse, Outcome.view?, h]

theorem Landing.flaggedFor {before : Session} {earlier : Option Mutations}
    {target : Option String} (h : Landing s earlier target t) (w : Showing) :
    t.session.FlaggedFor (w.next before a t) := by
  cases h with
  | shown => exact .load _ _ _
  | lost => exact .of_current_eq_none rfl _
  | ended => exact .of_current_eq_none rfl _

theorem increaseStat_flaggedFor (hs : s.FlaggedFor w) (stat : Stat) :
    (s.increaseStat stat).session.FlaggedFor
      (w.next s (.increaseStat stat) (s.increaseStat stat)) where
  flags := hs.flags
  counts := by
    intro hbroken hcurrent _
    have hwhole : w.broken = false ∧ s.phase.isCheck = false := by
      simpa [Showing.next, breaksOff, increaseStat, keep] using hbroken
    exact hs.counts hwhole.1 hcurrent hwhole.2

theorem Exit.flaggedFor (hs : s.FlaggedFor w) (h : Exit s a t) :
    t.session.FlaggedFor (w.next s a t) := by
  cases h with
  | started => exact .of_current_eq_none rfl _
  | arrived => exact .load _ _ _
  | nothingHere => exact .of_current_eq_none rfl _
  | notOffered =>
      rw [Showing.next_refuse rfl]
      exact hs
  | asked => exact ⟨hs.flags, nofun⟩
  | chosen _ _ landing => exact landing.flaggedFor w
  | notPending =>
      rw [Showing.next_refuse rfl]
      exact hs
  | rolled => exact ⟨hs.flags, nofun⟩
  | notDecided =>
      rw [Showing.next_refuse rfl]
      exact hs
  | continued _ landing => exact landing.flaggedFor w
  | raised stat => exact increaseStat_flaggedFor hs stat
  | left => exact .of_current_eq_none rfl _

theorem flaggedFor_begin (content : Content) (player : Option Player) (draws : Draws)
    (w : Showing) : (begin content player draws).FlaggedFor w := by
  refine .of_current_eq_none ?_ w
  cases player <;> rfl

/-- The invariant is carried through a run together with what the session does not keep. -/
theorem flaggedFor_run (hs : s.FlaggedFor w) (as : List Action) :
    (s.run as).FlaggedFor (s.showing w as) := by
  induction as generalizing s w with
  | nil => exact hs
  | cons a as ih => exact ih ((perform_exit s a).flaggedFor hs)

theorem Exit.not_refused_iff {index : Int} (h : Exit s (.selectOption index) t) :
    (∀ why, t.outcome ≠ some (.refused why)) ↔ ∃ v, s.Offers index v := by
  cases h with
  | notOffered guard =>
      constructor
      · intro hout
        exact absurd rfl (hout _)
      · rintro ⟨v, hv⟩
        exact absurd hv (guard v)
  | asked offered _ =>
      refine ⟨fun _ => ⟨_, offered⟩, fun _ why => ?_⟩
      simp [keep]
  | chosen offered _ landing =>
      exact ⟨fun _ => ⟨_, offered⟩, fun _ why => landing.not_refused why⟩

/-- What is offered is what was available to the player the step was shown to. -/
theorem FlaggedFor.offers_iff (hs : s.FlaggedFor w) (index : Int) (v : OptionView) :
    s.Offers index v ↔
      s.Displays index v ∧ isAvailable s.config v.option (w.player.effectiveCounts s.config) := by
  refine and_congr_right ?_
  rintro ⟨-, view, hview, hat⟩
  have hmem : v ∈ view.options := by
    unfold optionAt? at hat
    split at hat
    · contradiction
    · exact List.mem_of_getElem? hat
  rw [hs.flags view hview v hmem]

theorem FlaggedFor.counts_of_displays (hs : s.FlaggedFor w) (hwhole : w.broken = false)
    {index : Int} {v : OptionView} (h : s.Displays index v) :
    w.player.effectiveCounts s.config = s.player.effectiveCounts s.config := by
  obtain ⟨hphase, view, hview, -⟩ := h
  refine hs.counts hwhole ?_ ?_
  · simp [hview]
  · simp [hphase, Phase.isCheck]

/-- In every session that can be reached, an option can be chosen exactly when it is on display and
was available to the player it was shown to.  That is the present player, as far as the option is
concerned, unless a skill check was broken off at the step on display. -/
theorem selectOption_not_refused_iff (content : Content) (player : Option Player) (draws : Draws)
    (as : List Action) (index : Int) :
    let start := begin content player draws
    let s := start.run as
    let w := start.showing { player := start.player } as
    let chosen := ∀ why, (s.selectOption index).outcome ≠ some (.refused why)
    (chosen ↔ ∃ v, s.Displays index v ∧
      isAvailable s.config v.option (w.player.effectiveCounts s.config)) ∧
    (w.broken = false → (chosen ↔ ∃ v, s.Displays index v ∧
      isAvailable s.config v.option (s.player.effectiveCounts s.config))) := by
  intro start s w chosen
  have hs : s.FlaggedFor w := flaggedFor_run (flaggedFor_begin content player draws _) as
  have hchosen : chosen ↔ ∃ v, s.Displays index v ∧
      isAvailable s.config v.option (w.player.effectiveCounts s.config) := by
    refine (selectOption_exit s index).not_refused_iff.trans ?_
    exact exists_congr (hs.offers_iff index)
  refine ⟨hchosen, fun hwhole => ?_⟩
  refine hchosen.trans (exists_congr fun v => and_congr_right fun hv => ?_)
  rw [hs.counts_of_displays hwhole hv]

/-- A bet on a skill check that costs the coin it asks for. -/
def wager : Json :=
  .obj [("steps", .arr [.obj
    [("id", .str "Booth"), ("text", .str "A booth."), ("options", .arr [.obj
      [("label", .str "Bet"), ("tags", .arr [.str "inv:coin", .str "-inv:coin"]),
        ("skill", .str "might"), ("dc", .int 6), ("pass", .str "Booth"),
        ("fail", .str "Booth")]])]])]

def bet : StepOption where
  label := "Bet"
  tags := ["inv:coin", "-inv:coin"]
  passTarget := some "Booth"
  failTarget := some "Booth"
  skills := ["might"]
  dc := some 6

def booth : Content where
  steps := [{ id := "Booth", text := "A booth.", options := [bet] }]

/-- The coin is still there when the bet is first made. -/
theorem selectOption_not_refused_at_booth :
    let start := begin booth (some { tags := ["inv:coin"] }) {}
    let s := start.run [.navigate "Booth"]
    (start.showing { player := start.player } [.navigate "Booth"]).broken = false ∧
      ∃ v, s.Displays 0 v ∧ isAvailable s.config v.option (s.player.effectiveCounts s.config) := by
  have hwhole : ((begin booth (some { tags := ["inv:coin"] }) {}).showing
      { player := { tags := ["inv:coin"] } } [.navigate "Booth"]).broken = false := by
    decide +kernel
  have hchosen : ∀ why, (((begin booth (some { tags := ["inv:coin"] }) {}).run
      [.navigate "Booth"]).selectOption 0).outcome ≠ some (.refused why) := by
    intro why
    cases why <;> decide +kernel
  refine ⟨hwhole, ?_⟩
  exact ((selectOption_not_refused_iff booth (some { tags := ["inv:coin"] }) {}
    [.navigate "Booth"] 0).2 hwhole).mp hchosen

/-- A stat raised in the middle of a bet brings the bet back for a player without a coin. -/
theorem selectOption_can_outlive_availability :
    (Content.build none (.ofJson wager)).toOption = some booth ∧
      let s := (begin booth (some { tags := ["inv:coin"] }) {}).run
        [.navigate "Booth", .selectOption 0, .increaseStat .might]
      s.player.tags = [] ∧
        isAvailable s.config bet (s.player.effectiveCounts s.config) = false ∧
        (s.selectOption 0).outcome.bind Outcome.option? = some bet := by
  decide +kernel

end Session

end Questline
