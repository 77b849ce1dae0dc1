import Questline.Cap
import Questline.Proofs.Player.Experience
import Questline.Proofs.Session.Pursuit

/-!
# The log as a journal

Every step that is shown has been executed once, and may have written a line
into the log.  The log is the newest part of all the lines since the game was
started, as much of it as the cap allows; the count of completed steps is that
of the steps shown.
-/

namespace Questline

/-- Dropping what is too old before an entry is added makes no difference to what is left after. -/
theorem capped_cons_take {α : Type} (cap : Int) (x : α) (xs : List α) :
    capped cap (x :: xs.take cap.toNat) = (x :: xs).take cap.toNat := by
  unfold capped
  split
  · next hnegative =>
      have hcap : cap.toNat = 0 := by omega
      have hnone : (((x :: xs.take cap.toNat).length : Int) + cap).toNat = 0 := by
        rw [hcap, List.take_zero, List.length_singleton]
        omega
      rw [hnone, hcap, List.take_zero, List.take_zero]
  · cases cap.toNat with
    | zero => rfl
    | succ n => simp [List.take_take]

/-- A step as it comes to be executed, with the player and the draws it finds. -/
structure Execution where
  step : Step
  player : Player
  draws : Draws

namespace Execution

variable {config : Config}

/-- The player once the step has settled its variables. -/
def settled (config : Config) (e : Execution) : Player :=
  (settleVariables e.step.vars (mutate config e.step.tags e.player).1 e.draws).1

def text (config : Config) (e : Execution) : String :=
  Template.render (e.settled config).vars e.step.text

/-- What the step writes into the log. -/
def line? (config : Config) (e : Execution) : Option String :=
  (e.step.log.bind properText?).map (Template.render (e.settled config).vars)

def result (config : Config) (e : Execution) : Executed :=
  execute config e.step e.player e.draws

theorem exists_settled_eq (config : Config) (e : Execution) :
    ∃ tags vars xp leveledUp, e.settled config =
      { e.player with tags := tags, vars := vars, xp := xp, leveledUp := leveledUp } := by
  obtain ⟨tags, xp, leveledUp, hmutated⟩ :=
    Player.exists_applyTokens_eq e.player config e.step.tags
  obtain ⟨vars, hsettled⟩ :=
    Player.exists_settleVariables_eq e.step.vars (mutate config e.step.tags e.player).1 e.draws
  refine ⟨tags, vars, xp, leveledUp, hsettled.trans ?_⟩
  rw [mutate, hmutated]

theorem log_result (config : Config) (e : Execution) :
    (e.result config).player.log =
      match e.line? config with
      | some line => capped config.maxLogEntries (line :: e.player.log)
      | none => e.player.log := by
  obtain ⟨_, _, _, _, hsettled⟩ := e.exists_settled_eq config
  have hlog : (e.settled config).log = e.player.log := by rw [hsettled]
  rw [← hlog]
  simp only [result, execute, writeLog, line?]
  cases e.step.log.bind properText? with
  | none => rfl
  | some line => rfl

theorem stepsCompleted_result (config : Config) (e : Execution) :
    (e.result config).player.stepsCompleted = e.player.stepsCompleted + 1 := by
  obtain ⟨_, _, _, _, hsettled⟩ := e.exists_settled_eq config
  have hsteps : (e.settled config).stepsCompleted = e.player.stepsCompleted := by rw [hsettled]
  rw [← hsteps]
  simp only [result, execute, writeLog]
  split <;> rfl

theorem text_result (config : Config) (e : Execution) :
    (e.result config).text = e.text config := by
  simp only [result, execute, writeLog]
  split <;> rfl

end Execution

/-- What is executed at the end of a pursuit, unless it finds nothing. -/
def Pursuit.execution? (p : Pursuit) : Option Execution :=
  match p.session.select p.target with
  | (some step, draws) => some ⟨p.session.composed step, p.session.player, draws⟩
  | (none, _) => none

namespace Session

def executed? (s : Session) (a : Action) : Option Execution :=
  (s.pursued? a).bind Pursuit.execution?

/-- What is executed during a run, in order. -/
def executions (s : Session) : List Action → List Execution
  | [] => []
  | a :: as => (s.executed? a).toList ++ (s.perform a).session.executions as

end Session

/-- What is shown of a step. -/
def Outcome.shown? (o : Outcome) : Option (Step × String) := o.view?.map fun v => (v.step, v.text)

/-- A turn writes the line of what it executes, counts it and shows it. -/
structure Turn.Records (t : Turn) (config : Config) (before : Player) (e : Option Execution) :
    Prop where
  log : t.session.player.log =
    match e.bind (Execution.line? config) with
    | some line => capped config.maxLogEntries (line :: before.log)
    | none => before.log
  steps : t.session.player.stepsCompleted = before.stepsCompleted + e.toList.length
  shown : t.outcome.bind Outcome.shown? = e.map fun e => (e.step, e.text config)

namespace Session

variable {s : Session} {a : Action} {t : Turn} {p : Pursuit}

theorem records_load (step : Step) (earlier : Option Mutations) :
    (s.load step earlier).Records s.config s.player (some ⟨s.composed step, s.player, s.draws⟩) := by
  let e : Execution := ⟨s.composed step, s.player, s.draws⟩
  exact ⟨e.log_result s.config, e.stepsCompleted_result s.config,
    congrArg (fun text => some (e.step, text)) (e.text_result s.config)⟩

theorem records_none {before : Player} {config : Config} (hlog : t.session.player.log = before.log)
    (hsteps : t.session.player.stepsCompleted = before.stepsCompleted)
    (hshown : t.outcome.bind Outcome.shown? = none) : t.Records config before none :=
  ⟨hlog, by simp [hsteps], hshown⟩

/-- Whatever the player has paid for an option, the log and the count are as before. -/
theorem exists_charged_eq (s : Session) (o : StepOption) :
    ∃ tags xp leveledUp,
      (s.charged o).player = { s.player with tags := tags, xp := xp, leveledUp := leveledUp } :=
  Player.exists_applyTokens_eq s.player s.config o.tags

theorem Ends.records (h : Ends p t) :
    t.Records p.session.config p.session.player p.execution? := by
  cases h with
  | @found step draws earlier selected =>
      let drawn : Session := { p.session with draws := draws }
      have hexecution : p.execution? = some ⟨p.session.composed step, p.session.player, draws⟩ := by
        simp only [Pursuit.execution?, selected]
      rw [hexecution]
      exact records_load (s := drawn) step earlier
  | nothingHere selected =>
      have hnone : p.execution? = none := by simp only [Pursuit.execution?, selected]
      rw [hnone]
      exact records_none rfl rfl rfl
  | lost earlier selected =>
      have hnone : p.execution? = none := by simp only [Pursuit.execution?, selected]
      rw [hnone]
      exact records_none rfl rfl rfl

theorem records_congr {config : Config} {before after : Player} {e : Option Execution}
    (h : t.Records config before e) (hlog : before.log = after.log)
    (hsteps : before.stepsCompleted = after.stepsCompleted) : t.Records config after e where
  log := hlog ▸ h.log
  steps := hsteps ▸ h.steps
  shown := h.shown

theorem Landing.records {earlier : Option Mutations} {target : Option String}
    (h : Landing s earlier target t) :
    t.Records s.config s.player ((target.map (Pursuit.mk s)).bind Pursuit.execution?) := by
  cases target with
  | some id => exact h.ends.records
  | none =>
      cases h with
      | ended => exact records_none rfl rfl rfl

theorem Exit.records (h : Exit s a t) (continued : ∀ name chosen, a ≠ .start name chosen) :
    t.Records s.config s.player (s.executed? a) := by
  have hcharged : ∀ o : StepOption, (s.charged o).player.log = s.player.log ∧
      (s.charged o).player.stepsCompleted = s.player.stepsCompleted := by
    intro o
    obtain ⟨_, _, _, hplayer⟩ := s.exists_charged_eq o
    simp [hplayer]
  unfold executed?
  cases h with
  | started name chosen => exact absurd rfl (continued name chosen)
  | arrived selected => exact (Ends.found (p := ⟨_, _⟩) none selected).records
  | nothingHere selected => exact (Ends.nothingHere (p := ⟨_, _⟩) selected).records
  | notOffered guard =>
      rw [pursued?_selectOption, followed?_selectOption_eq_none guard]
      exact records_none rfl rfl rfl
  | @asked _ v offered check =>
      rw [pursued?_selectOption, followed?_selectOption offered, if_pos check]
      exact records_none (hcharged v.option).1 (hcharged v.option).2 rfl
  | @chosen _ v _ offered plain landing =>
      rw [pursued?_selectOption, followed?_selectOption offered, plain]
      exact records_congr landing.records (hcharged v.option).1 (hcharged v.option).2
  | notPending => exact records_none rfl rfl rfl
  | rolled => exact records_none rfl rfl rfl
  | notDecided guard =>
      rw [pursued?_continueCheck, followed?_continueCheck_eq_none guard]
      exact records_none rfl rfl rfl
  | continued awaited landing =>
      rw [pursued?_continueCheck, followed?_continueCheck awaited]
      exact landing.records
  | raised => exact records_none rfl rfl rfl
  | left => exact records_none rfl rfl rfl

theorem config_perform (s : Session) (a : Action) : (s.perform a).session.config = s.config :=
  congrArg Content.config (perform_exit s a).content

/-- What was in the log before a run, `earlier` being the newest lines first, is followed by the
lines of the run; both are cut off at the same length. -/
theorem log_run {earlier : List String}
    (hlog : s.player.log = earlier.take s.config.maxLogEntries.toNat) (as : List Action)
    (continued : ∀ a ∈ as, ∀ name chosen, a ≠ .start name chosen) :
    (s.run as).player.log =
      (((s.executions as).filterMap (Execution.line? s.config)).reverse ++ earlier).take
        s.config.maxLogEntries.toNat := by
  induction as generalizing s earlier with
  | nil => simpa [executions, run] using hlog
  | cons a as ih =>
      rw [List.forall_mem_cons] at continued
      have hturn := (perform_exit s a).records continued.1
      have hlines : (s.perform a).session.player.log =
          ((((s.executed? a).toList.filterMap (Execution.line? s.config)).reverse) ++ earlier).take
            s.config.maxLogEntries.toNat := by
        rw [hturn.log, hlog]
        cases s.executed? a with
        | none => rfl
        | some e =>
            cases hline : e.line? s.config with
            | none => simp [hline]
            | some line => simp [hline, capped_cons_take]
      have hconfig := config_perform s a
      rw [← hconfig] at hlines
      have hrest := ih hlines continued.2
      rw [hconfig] at hrest
      rw [run, hrest, executions, List.filterMap_append, List.reverse_append, List.append_assoc]

theorem stepsCompleted_run (as : List Action)
    (continued : ∀ a ∈ as, ∀ name chosen, a ≠ .start name chosen) :
    (s.run as).player.stepsCompleted = s.player.stepsCompleted + (s.executions as).length := by
  induction as generalizing s with
  | nil => simp [executions, run]
  | cons a as ih =>
      rw [List.forall_mem_cons] at continued
      have hturn := (perform_exit s a).records continued.1
      rw [run, ih continued.2, hturn.steps, executions, List.length_append]
      omega

theorem shown_run (as : List Action)
    (continued : ∀ a ∈ as, ∀ name chosen, a ≠ .start name chosen) :
    (s.outcomes as).filterMap (fun o => o.bind Outcome.shown?) =
      (s.executions as).map fun e => (e.step, e.text s.config) := by
  induction as generalizing s with
  | nil => rfl
  | cons a as ih =>
      rw [List.forall_mem_cons] at continued
      have hturn := (perform_exit s a).records continued.1
      have hrest := ih (s := (s.perform a).session) continued.2
      rw [config_perform] at hrest
      rw [outcomes, executions, List.filterMap_cons, hturn.shown, hrest, List.map_append]
      cases s.executed? a with
      | none => rfl
      | some e => rfl

theorem isSome_shown?_iff (o : Option Outcome) :
    (o.bind Outcome.shown?).isSome = (o.map Outcome.kind == some .step) := by
  cases o with
  | none => rfl
  | some o => cases o <;> rfl

/-- After any actions that follow the start of a game, as many steps are completed as were shown,
and the log is the newest part, as long as the cap allows, of all the lines of the steps executed
since, newest first.  What was executed is what was shown, step by step, and every line is filled
in, as the shown text is, from the variables as its own step has settled them. -/
theorem log_is_newest_lines (s : Session) (name : Option String) (chosen : Stat → Option Int)
    {as : List Action} (continued : ∀ a ∈ as, ∀ name chosen, a ≠ .start name chosen) :
    let start := (s.start name chosen).session
    let r := start.run as
    let cap := s.config.maxLogEntries.toNat
    r.player.stepsCompleted =
        (start.outcomes as).countP (fun o => o.map Outcome.kind == some .step) ∧
      (start.outcomes as).filterMap (fun o => o.bind Outcome.shown?) =
        (start.executions as).map (fun e => (e.step, e.text s.config)) ∧
      r.player.log = (((start.executions as).filterMap (Execution.line? s.config)).reverse).take cap ∧
      r.player.log.length ≤ cap := by
  intro start r cap
  have hsteps : r.player.stepsCompleted = 0 + (start.executions as).length :=
    stepsCompleted_run (s := start) as continued
  have hshown := shown_run (s := start) as continued
  have hempty : start.player.log = ([] : List String).take cap := List.take_nil.symm
  have hlog : r.player.log =
      (((start.executions as).filterMap (Execution.line? s.config)).reverse ++ []).take cap :=
    log_run (s := start) hempty as continued
  rw [List.append_nil] at hlog
  have hcount : (start.outcomes as).countP (fun o => o.map Outcome.kind == some .step) =
      (start.executions as).length := by
    simp only [← isSome_shown?_iff, ← List.length_filterMap_eq_countP, hshown, List.length_map]
  refine ⟨by omega, hshown, hlog, ?_⟩
  rw [hlog]
  exact List.length_take_le _ _

/-- Whoever comes to the gate notes down the mood of the guard; two notes are kept. -/
def moodyContent : Content where
  steps :=
    [{ id := "Gate", text := "A guard.", vars := [("mood", some [.text "calm", .text "merry"])],
        log := some "The guard was \x7b\x7bmood\x7d\x7d." }]
  config := { maxLogEntries := 2 }

def moody : Session := begin moodyContent none { pending := [0, 1, 0, 0, 0, 1] }

/-- The first of three notes is gone. -/
theorem log_is_newest_lines_at_gate :
    let as : List Action := [.navigate "Gate", .navigate "Gate", .navigate "Gate"]
    (∀ a ∈ as, ∀ name chosen, a ≠ .start name chosen) ∧
      ((moody.start none fun _ => none).session.executions as).filterMap
          (Execution.line? moody.config) =
        ["The guard was merry.", "The guard was calm.", "The guard was merry."] ∧
      ((moody.start none fun _ => none).session.run as).player.log =
        ["The guard was merry.", "The guard was calm."] ∧
      ((moody.start none fun _ => none).session.run as).player.stepsCompleted = 3 := by
  intro as
  have hcontinued : ∀ a ∈ as, ∀ name chosen, a ≠ .start name chosen := by simp [as]
  have hlines : ((moody.start none fun _ => none).session.executions as).filterMap
      (Execution.line? moody.config) =
        ["The guard was merry.", "The guard was calm.", "The guard was merry."] := by
    decide +kernel
  have hshown : ((moody.start none fun _ => none).session.outcomes as).countP
      (fun o => o.map Outcome.kind == some .step) = 3 := by
    decide +kernel
  obtain ⟨hsteps, -, hlog, -⟩ := log_is_newest_lines moody none (fun _ => none) hcontinued
  rw [hshown] at hsteps
  rw [hlines] at hlog
  exact ⟨hcontinued, hlines, hlog, hsteps⟩

end Session

end Questline
