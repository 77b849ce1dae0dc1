import Questline.Proofs.Config.Ranges
import Questline.Proofs.Player.Accounts
import Questline.Proofs.Session.Turns

/-!
# What a turn reports

A turn can change the tags of the player twice, by the option that is chosen
and by the step that it leads to.  Whatever the exit, its outcome reports both,
once each, or reports nothing and nothing has changed.
-/

namespace Questline

/-- What the outcome of a turn reports; no report is an empty one. -/
def Turn.report (t : Turn) : Mutations := (t.outcome.bind Outcome.mutations?).getD {}

namespace Session

variable {s : Session} {a : Action} {t : Turn} {p : Player}

theorem mergeMutations_eq (earlier : Option Mutations) (m : Mutations) :
    mergeMutations earlier m = (earlier.getD {}).merge m := by
  cases earlier with
  | none => simp [mergeMutations, Mutations.merge]
  | some e => rfl

theorem charge_accounts (hconfig : s.config.IsClamped) (o : StepOption) :
    (s.charge o).Accounts s.config s.player (s.charged o).player :=
  mutate_accounts hconfig.questXp_nonneg hconfig.xpPerLevel_pos o.tags s.player

/-- What led to a step and what the step does are accounted for together. -/
theorem load_accounts (hconfig : s.config.IsClamped) (step : Step) {earlier : Option Mutations}
    (hearlier : (earlier.getD {}).Accounts s.config p s.player) :
    (s.load step earlier).report.Accounts s.config p (s.load step earlier).session.player := by
  have hexecuted := execute_accounts hconfig.questXp_nonneg hconfig.xpPerLevel_pos
    (s.composed step) s.player s.draws
  have hboth := hearlier.merge hexecuted
  rw [← mergeMutations_eq] at hboth
  exact hboth.congr rfl rfl

theorem Landing.accounts {earlier : Option Mutations} {target : Option String}
    (h : Landing s earlier target t) (hconfig : s.config.IsClamped)
    (hearlier : (earlier.getD {}).Accounts s.config p s.player) :
    t.report.Accounts s.config p t.session.player := by
  cases h with
  | @shown _ step draws =>
      let drawn : Session := { s with draws := draws }
      exact load_accounts (s := drawn) hconfig step hearlier
  | lost => exact hearlier.congr rfl rfl
  | ended => exact hearlier.congr rfl rfl

theorem Exit.accounts (h : Exit s a t) (hconfig : s.config.IsClamped) (ha : a.answers = true) :
    t.report.Accounts s.config s.player t.session.player := by
  -- what a turn begins with: nothing has been reported, and nothing has happened
  have hnothing : ({} : Mutations).Accounts s.config s.player s.player := .of_same rfl rfl
  cases h with
  | started => contradiction
  | @arrived _ step draws =>
      let drawn : Session := { s.unburdened with draws := draws }
      exact @load_accounts drawn s.player hconfig step none hnothing
  | nothingHere => exact hnothing
  | notOffered => exact hnothing
  | @asked _ v => exact charge_accounts hconfig v.option
  | @chosen _ v _ _ _ landing => exact landing.accounts hconfig (charge_accounts hconfig v.option)
  | notPending => exact hnothing
  | rolled => exact hnothing
  | notDecided => exact hnothing
  | continued _ landing => exact landing.accounts hconfig hnothing
  | raised => contradiction
  | left => exact hnothing.congr rfl rfl

/-- After every turn that is answered, on content that was built, the tags of the player are those
from before with what the outcome reports as added and without what it reports as removed, copy by
copy; where it reports nothing, nothing was added or removed.  It tells of a rise in level exactly
if the level rose during the turn. -/
theorem turn_accounted_for {source : Option String} {payload : Payload}
    (built : Content.build source payload = .ok s.content) (answered : a.answers = true) :
    let t := s.perform a
    let reported := t.outcome.bind Outcome.mutations?
    (∀ tag, (t.session.player.tags.count tag : Int) =
      s.player.tags.count tag + (reported.getD {}).added.count tag -
        (reported.getD {}).removed.count tag) ∧
    ∀ m, reported = some m →
      (m.leveledUp = true ↔ s.player.level s.config < t.session.player.level s.config) := by
  intro t reported
  have hturn : t.report.Accounts s.config s.player t.session.player :=
    (perform_exit s a).accounts (Content.isClamped_of_build built) answered
  refine ⟨hturn.tags, ?_⟩
  intro m hm
  have hreport : t.report = m := by
    have hsome : t.outcome.bind Outcome.mutations? = some m := hm
    rw [Turn.report, hsome]
    rfl
  rw [← hreport]
  exact hturn.leveledUp

/-- A quest is reported at the gate for a seal, which is handed over in the hall. -/
def court : Json :=
  .obj [("steps", .arr [
      .obj [("id", .str "Gate"), ("text", .str "A gate."), ("options", .arr [.obj
        [("label", .str "Report"), ("tags", .arr [.str "-quest", .str "+seal"]),
          ("pass", .str "Hall")]])],
      .obj [("id", .str "Hall"), ("text", .str "A hall."),
        ("tags", .arr [.str "-seal", .str "+guest"])]]),
    ("config", .obj [("xpPerLevel", .int 1)])]

def courtContent : Content where
  steps :=
    [{ id := "Gate", text := "A gate.",
        options := [{ label := "Report", tags := ["-quest", "+seal"], passTarget := some "Hall" }] },
      { id := "Hall", text := "A hall.", tags := ["-seal", "+guest"] }]
  config := { xpPerLevel := 1 }

/-- The quest and its tags are gone, the seal came and went, and a level was gained. -/
theorem turn_accounted_for_at_court :
    let s := (begin courtContent (some { tags := ["q:errand", "quest"] }) {}).run
      [.navigate "Gate"]
    let t := s.perform (.selectOption 0)
    Content.build none (.ofJson court) = .ok s.content ∧
      (Action.selectOption 0).answers = true ∧
      s.player.tags = ["q:errand", "quest"] ∧ t.session.player.tags = ["guest"] ∧
      s.player.level s.config < t.session.player.level s.config ∧
      ∃ m, t.outcome.bind Outcome.mutations? = some m ∧ m.leveledUp = true ∧
        ∀ tag, (t.session.player.tags.count tag : Int) =
          s.player.tags.count tag + m.added.count tag - m.removed.count tag := by
  intro s t
  have hbuilt : Content.build none (.ofJson court) = .ok s.content := rfl
  have hrises : s.player.level s.config < t.session.player.level s.config := by decide +kernel
  obtain ⟨m, hreported⟩ : ∃ m, t.outcome.bind Outcome.mutations? = some m :=
    Option.isSome_iff_exists.mp (by decide +kernel)
  obtain ⟨htags, hlevel⟩ := turn_accounted_for (a := .selectOption 0) hbuilt rfl
  rw [hreported] at htags
  exact ⟨hbuilt, rfl, by decide +kernel, by decide +kernel, hrises, m, hreported,
    (hlevel m hreported).mpr hrises, htags⟩

end Session

end Questline
