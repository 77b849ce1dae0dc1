import Questline.Proofs.Player.Experience
import Questline.Proofs.Simulator.History
import Questline.Proofs.Simulator.Lockstep

/-!
# Stepping back

Stepping back right after a move restores what the entry of the move tells of
the time before it: the tags and the variables.  The experience of quests that
the move ended is not told, so it stays; and the entry of an arrival tells the
location that was reached, not the one that was left.
-/

namespace Questline.Simulator

variable {s t : Simulator} {e : HistoryEntry} {step : Step} {o : StepOption}

theorem Moves.back_eq (h : s.Moves e t) (hs : s.Bounded) :
    t.back =
      { t with
        player := { t.player with tags := s.player.tags, vars := s.player.vars }
        location := e.location
        position := s.position }.refresh := by
  have hentry : t.history[s.position]? = some e := by
    rw [h.getElem?_history hs, if_neg (Nat.lt_irrefl _), if_pos rfl]
  unfold back
  simp only [h.position_eq hs, hentry, h.tagsBefore, h.varsBefore]

/-! ## Options -/

/-- How many quests the step at a target ends on arrival. -/
def questsEndedAt (s : Simulator) (target : String) : Nat :=
  match (s.select target).1 with
  | none => 0
  | some step => s.player.questsEnded s.config (s.composed step).tags

/-- How many quests end when an option is taken, by the option and by the step it leads to. -/
def questsEnded (s : Simulator) (o : StepOption) (outcome : CheckOutcome) : Nat :=
  s.player.questsEnded s.config o.tags +
    match targetOf o outcome with
    | none => 0
    | some target => (s.charged o).questsEndedAt target

theorem xp_enter (s : Simulator) (target : String) :
    (s.enter target).1.player.xp = s.player.xp + s.questsEndedAt target * s.config.questXp := by
  unfold enter questsEndedAt
  cases hselect : s.select target with
  | mk found draws =>
      cases found with
      | none => simp
      | some step =>
          have happlied := s.player.xp_applyTokens s.config (s.composed step).tags
          simpa [mutate, Player.xp_settleVariables] using happlied

theorem xp_takeOption (s : Simulator) (step : Step) (o : StepOption) (outcome : CheckOutcome) :
    (s.takeOption step o outcome).1.player.xp =
      s.player.xp + s.questsEnded o outcome * s.config.questXp := by
  have hpaid : (s.charged o).player.xp =
      s.player.xp + s.player.questsEnded s.config o.tags * s.config.questXp :=
    s.player.xp_applyTokens s.config o.tags
  have hplayer : (s.takeOption step o outcome).1.player =
      ((s.charged o).land (targetOf o outcome)).player :=
    player_takeOption s step o outcome
  rw [hplayer, questsEnded]
  cases targetOf o outcome with
  | none => simpa [land] using hpaid
  | some target =>
      have hentered := (s.charged o).xp_enter target
      have hconfig : (s.charged o).config = s.config := rfl
      simp only [land]
      rw [hentered, hpaid, hconfig]
      push_cast
      ring

/-- Stepping back right after an option was taken, in any state that can be reached, restores the
tags, the variables, the location and the position.  The experience restored is what it was and
that of the quests that ended on the way, so that tags are counted as before unless the player's
level is asked for. -/
theorem back_of_take (reached : s.Reachable) (shown : s.patchedStep = some step) {place : Nat}
    (offered : step.options[place]? = some o) (outcome : CheckOutcome) :
    ∃ moved entry, s.take place outcome.name = .ok (moved, entry) ∧
      moved.back.player.tags = s.player.tags ∧ moved.back.player.vars = s.player.vars ∧
      moved.back.location = s.location ∧ moved.back.position = s.position ∧
      moved.back.player.xp = s.player.xp + s.questsEnded o outcome * s.config.questXp ∧
      (∀ name, name ≠ Player.levelTag → moved.back.counts name = s.counts name) ∧
      (moved.back.player.xp = s.player.xp → moved.back.counts = s.counts) := by
  have hmoves := s.takeOption_moves step o outcome
  have hxp := s.xp_takeOption step o outcome
  have htake := take_eq_ok shown offered outcome
  have hlocation : (s.takeOption step o outcome).2.location = s.location := rfl
  generalize s.takeOption step o outcome = r at hmoves hxp htake hlocation
  obtain ⟨moved, entry⟩ := r
  have hback := hmoves.back_eq reached.bounded
  have hconfig : moved.back.config = s.config := by
    rw [hback, config, content_refresh]
    exact congrArg Content.config hmoves.content
  have htags : moved.back.player.tags = s.player.tags := by rw [hback, player_refresh]
  refine ⟨moved, entry, htake, htags, ?_, ?_, ?_, ?_, ?_, ?_⟩
  · rw [hback, player_refresh]
  · rw [hback, location_refresh]
    exact hlocation
  · rw [hback, position_refresh]
  · rw [hback, player_refresh]
    exact hxp
  · intro name hname
    simp only [counts, Player.effectiveCounts, Player.count, htags, hname, if_false]
  · intro hsame
    funext name
    simp only [counts, Player.effectiveCounts, Player.count, Player.level, htags, hsame, hconfig]

/-- A guard who can be told that the quest is done, and a hall behind the gate. -/
def gatehouse : Content where
  steps :=
    [{ id := "Gate", text := "A gate.", options := [{ label := "Report", tags := ["-quest"] }] },
      { id := "Hall", text := "A hall." }]
  config := { xpPerLevel := 1 }

/-- The quest comes back and its experience stays. -/
theorem back_of_take_at_gate :
    let s := (begin gatehouse ["quest"] {}).run [.setLocation "Gate"]
    s.Reachable ∧ s.patchedStep = some gatehouse.steps[0] ∧
      ∃ moved entry, s.take (0 : Nat) CheckOutcome.pass.name = .ok (moved, entry) ∧
        moved.back.player.tags = ["quest"] ∧ moved.back.player.xp = 1 := by
  intro s
  have reached : s.Reachable := ⟨gatehouse, ["quest"], {}, [.setLocation "Gate"], rfl⟩
  have shown : s.patchedStep = some gatehouse.steps[0] := by decide +kernel
  have offered : gatehouse.steps[0].options[0]? = some { label := "Report", tags := ["-quest"] } :=
    rfl
  obtain ⟨moved, entry, htake, htags, -, -, -, hxp, -⟩ := back_of_take reached shown offered .pass
  refine ⟨reached, shown, moved, entry, htake, ?_, ?_⟩
  · rw [htags]
    decide +kernel
  · rw [hxp]
    decide +kernel

/-- Once the end of a quest has been taken back, the player has a level more than before. -/
theorem back_can_leave_experience :
    let s := (begin gatehouse ["quest"] {}).run [.setLocation "Gate"]
    s.player.xp = 0 ∧ s.counts Player.levelTag = 1 ∧
      ((s.take 0 "pass").toOption.map fun r =>
        (r.1.back.player.xp, r.1.back.counts Player.levelTag)) = some (1, 2) := by
  decide +kernel

/-! ## Travels -/

theorem recorded?_of_arrival {location : String} (elsewhere : location ≠ s.location)
    (arrives : (s.setLocation location).current = some step) :
    s.recorded? (.setLocation location) =
      some ((refresh { s with location := location }).arrival s.location step) := by
  obtain ⟨hcurrent, -, -⟩ := s.setLocation_frame location
  rw [hcurrent] at arrives
  simp only [recorded?, elsewhere, if_false, arrives, Option.map_some]

/-- Stepping back right after a travel, in any state that can be reached, restores the player and
the position but stays at the location that was travelled to. -/
theorem back_of_travel (reached : s.Reachable) (departs : s.location ≠ "") {location : String}
    (elsewhere : location ≠ s.location) (arrives : (s.setLocation location).current = some step) :
    (∃ e, s.recorded? (.setLocation location) = some e ∧ e.optionLabel = "(traveled)") ∧
      (s.setLocation location).back.player = s.player ∧
      (s.setLocation location).back.position = s.position ∧
      (s.setLocation location).back.location = location := by
  have hentry := recorded?_of_arrival elsewhere arrives
  obtain ⟨-, hplayer, -⟩ := s.setLocation_frame location
  have hback := (setLocation_moves hentry).back_eq reached.bounded
  have hlabel : s.location.isEmpty = false := by simpa using departs
  refine ⟨⟨_, hentry, by simp [arrival, hlabel]⟩, ?_, ?_, ?_⟩
  · rw [hback, player_refresh, hplayer]
  · rw [hback, position_refresh]
  · rw [hback, location_refresh]
    exact location_refresh _

/-- On the way from the gate to the hall, stepping back leads to the hall. -/
theorem back_of_travel_to_hall :
    let s := (begin gatehouse [] {}).run [.setLocation "Gate"]
    s.Reachable ∧ s.location = "Gate" ∧
      (s.setLocation "Hall").current = some gatehouse.steps[1] ∧
      (s.setLocation "Hall").back.location = "Hall" := by
  intro s
  have reached : s.Reachable := ⟨gatehouse, [], {}, [.setLocation "Gate"], rfl⟩
  have hlocation : s.location = "Gate" := by decide +kernel
  have departs : s.location ≠ "" := by simp [hlocation]
  have elsewhere : "Hall" ≠ s.location := by simp [hlocation]
  have arrives : (s.setLocation "Hall").current = some gatehouse.steps[1] := by decide +kernel
  obtain ⟨-, -, -, hstays⟩ := back_of_travel reached departs elsewhere arrives
  exact ⟨reached, hlocation, arrives, hstays⟩

/-- Nor does it lead to the gate. -/
theorem back_can_miss_departure :
    let s := (begin gatehouse [] {}).run [.setLocation "Gate"]
    s.location = "Gate" ∧ (s.setLocation "Hall").current = some gatehouse.steps[1] ∧
      (s.setLocation "Hall").back.location ≠ s.location := by
  decide +kernel

end Questline.Simulator
