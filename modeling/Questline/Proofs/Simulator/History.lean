import Questline.Proofs.Matching.Selection
import Questline.Simulator
import Mathlib.Data.List.Induction

/-!
# The history of a simulator

What every command leaves in the history.  `recorded?` tells which entry a
command records, if any; recording drops the moves that lay ahead, and an entry
holds what is needed to come back to the point right after it was recorded.
Along a run every entry of the history can therefore be traced to the command
that recorded it.
-/

namespace Questline.Simulator

/-- What an author can do. -/
inductive Command where
  | setLocation (location : String)
  | take (index : Int) (outcome : String)
  | back
  | jumpTo (index : Int)
  | reset
  | addTag (tag : String)
  | removeTag (tag : String)
  | setVariable (name value : String)
deriving DecidableEq

/-- A move that cannot be made changes nothing. -/
def perform (s : Simulator) : Command → Simulator
  | .setLocation location => s.setLocation location
  | .take index outcome =>
    match s.take index outcome with
    | .ok (moved, _) => moved
    | .error _ => s
  | .back => s.back
  | .jumpTo index => s.jumpTo index
  | .reset => s.reset
  | .addTag tag => s.addTag tag
  | .removeTag tag => s.removeTag tag
  | .setVariable name value => s.setVariable name value

/-- The simulator after a list of commands. -/
def run (s : Simulator) : List Command → Simulator
  | [] => s
  | c :: cs => (s.perform c).run cs

/-- The entry that a command records, if it records one. -/
def recorded? (s : Simulator) : Command → Option HistoryEntry
  | .setLocation location =>
    let moved := { s with location := location }.refresh
    if location = s.location then none else moved.current.map (moved.arrival s.location)
  | .take index outcome => (s.take index outcome).toOption.map (·.2)
  | _ => none

variable {s t : Simulator} {c : Command} {e : HistoryEntry} {k : Nat}

theorem run_append (s : Simulator) (cs ds : List Command) :
    s.run (cs ++ ds) = (s.run cs).run ds := by
  induction cs generalizing s with
  | nil => rfl
  | cons c cs ih => exact ih (s.perform c)

theorem run_concat (s : Simulator) (cs : List Command) (c : Command) :
    s.run (cs ++ [c]) = (s.run cs).perform c :=
  s.run_append cs [c]

theorem run_induction {P : Simulator → Prop} (h : P s)
    (step : ∀ s c, P s → P (s.perform c)) (cs : List Command) : P (s.run cs) := by
  induction cs generalizing s with
  | nil => exact h
  | cons c cs ih => exact ih (step s c h)

/-! ## Recorded moves -/

/-- A move from `s` to `t` that was recorded as `e`: the moves that lay ahead are dropped, and the
entry tells how the player was before and after the move, and where it led. -/
structure Moves (s : Simulator) (e : HistoryEntry) (t : Simulator) : Prop where
  content : t.content = s.content
  history : t.history = s.history.take s.position ++ [e]
  position : t.position = (s.history.take s.position).length + 1
  tagsBefore : e.tagsBefore = s.player.tags
  varsBefore : e.varsBefore = s.player.vars
  tagsAfter : e.tagsAfter = t.player.tags
  varsAfter : e.varsAfter = t.player.vars
  destination : e.target.getD e.location = t.location

theorem Moves.refresh (h : s.Moves e t) : s.Moves e t.refresh where
  content := t.content_refresh.trans h.content
  history := t.history_refresh.trans h.history
  position := t.position_refresh.trans h.position
  tagsBefore := h.tagsBefore
  varsBefore := h.varsBefore
  tagsAfter := by rw [player_refresh, h.tagsAfter]
  varsAfter := by rw [player_refresh, h.varsAfter]
  destination := by rw [location_refresh, h.destination]

/-- With the history and the position untouched so far, recording an entry that tells the truth
makes a move. -/
theorem moves_record {moved : Simulator} (content : moved.content = s.content)
    (history : moved.history = s.history) (position : moved.position = s.position)
    (tagsBefore : e.tagsBefore = s.player.tags) (varsBefore : e.varsBefore = s.player.vars)
    (tagsAfter : e.tagsAfter = moved.player.tags) (varsAfter : e.varsAfter = moved.player.vars)
    (destination : e.target.getD e.location = moved.location) : s.Moves e (moved.record e) where
  content := content
  history := by rw [record, history, position]
  position := by simp only [record, history, position, List.length_append, List.length_singleton]
  tagsBefore := tagsBefore
  varsBefore := varsBefore
  tagsAfter := tagsAfter
  varsAfter := varsAfter
  destination := destination

theorem setLocation_moves {location : String}
    (h : s.recorded? (.setLocation location) = some e) : s.Moves e (s.setLocation location) := by
  simp only [recorded?] at h
  split at h
  · contradiction
  · next hnew =>
      obtain ⟨step, hstep, rfl⟩ := Option.map_eq_some_iff.mp h
      simp only [setLocation, hstep, hnew, if_false]
      apply moves_record <;> simp [arrival]

theorem setLocation_of_recorded?_eq_none {location : String}
    (h : s.recorded? (.setLocation location) = none) :
    s.setLocation location = { s with location := location }.refresh := by
  simp only [recorded?] at h
  unfold setLocation
  split at h
  · next hsame =>
      simp only [hsame, if_true]
      split <;> rfl
  · simp only [Option.map_eq_none_iff.mp h]

/-- Whether or not the arrival is recorded, there is nothing else that it changes. -/
theorem setLocation_frame (s : Simulator) (location : String) :
    let arrived := s.setLocation location
    arrived.current = (refresh { s with location := location }).current ∧
      arrived.player = s.player ∧ arrived.location = location := by
  have hplayer := player_refresh { s with location := location }
  have hlocation := location_refresh { s with location := location }
  unfold setLocation
  simp only
  split
  · exact ⟨rfl, hplayer, hlocation⟩
  · split <;> exact ⟨rfl, hplayer, hlocation⟩

/-- Entering a step touches neither the content nor the history. -/
theorem enter_frame (s : Simulator) (target : String) :
    let entered := (s.enter target).1
    entered.content = s.content ∧ entered.history = s.history ∧ entered.position = s.position ∧
      entered.location = target := by
  unfold enter
  split <;> exact ⟨rfl, rfl, rfl, rfl⟩

theorem takeOption_moves (s : Simulator) (step : Step) (o : StepOption) (outcome : CheckOutcome) :
    s.Moves (s.takeOption step o outcome).2 (s.takeOption step o outcome).1 := by
  unfold takeOption
  cases targetOf o outcome with
  | none =>
      refine Moves.refresh ?_
      apply moves_record <;> rfl
  | some target =>
      obtain ⟨hcontent, hhistory, hposition, hlocation⟩ :=
        enter_frame { s with player := (mutate s.config o.tags s.player).1 } target
      exact moves_record hcontent hhistory hposition rfl rfl rfl rfl hlocation.symm

theorem exists_takeOption_of_take {index : Int} {outcome : String}
    (h : s.take index outcome = .ok (t, e)) :
    ∃ step o result, s.takeOption step o result = (t, e) := by
  unfold take at h
  cases hshown : s.patchedStep with
  | none => simp [hshown] at h
  | some step =>
      simp only [hshown] at h
      generalize (if index < 0 then none else step.options[index.toNat]?) = o? at h
      cases o? with
      | none => simp at h
      | some o =>
          cases hresult : CheckOutcome.ofName? outcome with
          | none => simp [hresult] at h
          | some result =>
              simp only [hresult] at h
              exact ⟨step, o, result, Except.ok.inj h⟩

theorem take_moves {index : Int} {outcome : String} (h : s.take index outcome = .ok (t, e)) :
    s.Moves e t := by
  obtain ⟨step, o, result, hresult⟩ := exists_takeOption_of_take h
  have hmoves := s.takeOption_moves step o result
  rwa [hresult] at hmoves

theorem perform_moves (h : s.recorded? c = some e) : s.Moves e (s.perform c) := by
  cases c with
  | setLocation location => exact setLocation_moves h
  | take index outcome =>
      simp only [recorded?] at h
      cases htake : s.take index outcome with
      | error why => simp [htake, Except.toOption] at h
      | ok r =>
          obtain ⟨t, e'⟩ := r
          obtain rfl : e' = e := by simpa [htake, Except.toOption] using h
          simp only [perform, htake]
          exact take_moves htake
  | _ => contradiction

/-! ## Other commands -/

@[simp] theorem history_back (s : Simulator) : s.back.history = s.history := by
  unfold back
  split
  · rfl
  · split
    · rfl
    · exact history_refresh _

theorem position_back_le (s : Simulator) : s.back.position ≤ s.position := by
  unfold back
  split
  · exact Nat.le_refl _
  · next n hposition =>
      split
      · exact Nat.le_refl _
      · rw [position_refresh, hposition]
        exact Nat.le_succ n

theorem jumpTo_cases (s : Simulator) (index : Int) :
    s.jumpTo index = s ∨ ∃ (k : Nat) (e : HistoryEntry), s.history[k]? = some e ∧
      s.jumpTo index =
        { s with
          player := { s.player with tags := e.tagsAfter, vars := e.varsAfter }
          location := e.target.getD e.location
          position := k + 1 }.refresh := by
  unfold jumpTo
  split
  · exact .inl rfl
  · split
    · exact .inl rfl
    · next e hentry => exact .inr ⟨index.toNat, e, hentry, rfl⟩

@[simp] theorem history_jumpTo (s : Simulator) (index : Int) :
    (s.jumpTo index).history = s.history := by
  obtain hsame | ⟨k, e, -, hjump⟩ := s.jumpTo_cases index
  · rw [hsame]
  · rw [hjump, history_refresh]

/-- The position lies within the history. -/
def Bounded (s : Simulator) : Prop := s.position ≤ s.history.length

theorem Bounded.jumpTo (h : s.Bounded) (index : Int) : (s.jumpTo index).Bounded := by
  obtain hsame | ⟨k, e, hentry, hjump⟩ := s.jumpTo_cases index
  · rwa [hsame]
  · have hplace : k < s.history.length := (List.getElem?_eq_some_iff.mp hentry).1
    rw [Bounded, history_jumpTo, hjump, position_refresh]
    exact hplace

theorem Bounded.back (h : s.Bounded) : s.back.Bounded := by
  rw [Bounded, history_back]
  exact s.position_back_le.trans h

theorem Moves.bounded (h : s.Moves e t) : t.Bounded := by
  rw [Bounded, h.history, h.position, List.length_append, List.length_singleton]

theorem perform_take_of_recorded?_eq_none {index : Int} {outcome : String}
    (h : s.recorded? (.take index outcome) = none) : s.perform (.take index outcome) = s := by
  simp only [recorded?] at h
  cases htake : s.take index outcome with
  | error why => simp only [perform, htake]
  | ok r => simp [htake, Except.toOption] at h

theorem history_of_recorded?_eq_none (h : s.recorded? c = none) :
    (s.perform c).history = s.history ∨ (c = .reset ∧ (s.perform c).history = []) := by
  cases c with
  | setLocation location =>
      rw [perform, setLocation_of_recorded?_eq_none h, history_refresh]
      exact .inl rfl
  | take index outcome =>
      rw [perform_take_of_recorded?_eq_none h]
      exact .inl rfl
  | back => exact .inl s.history_back
  | jumpTo index => exact .inl (s.history_jumpTo index)
  | reset => exact .inr ⟨rfl, history_refresh _⟩
  | addTag tag => exact .inl (history_refresh _)
  | removeTag tag => exact .inl (history_refresh _)
  | setVariable name value => exact .inl rfl

theorem Bounded.of_recorded?_eq_none (hs : s.Bounded) (h : s.recorded? c = none) :
    (s.perform c).Bounded := by
  cases c with
  | setLocation location =>
      rw [perform, setLocation_of_recorded?_eq_none h]
      simpa [Bounded] using hs
  | take index outcome => rwa [perform_take_of_recorded?_eq_none h]
  | back => exact hs.back
  | jumpTo index => exact hs.jumpTo index
  | reset => simp [perform, reset, Bounded]
  | addTag tag => simpa [perform, addTag, Bounded] using hs
  | removeTag tag => simpa [perform, removeTag, Bounded] using hs
  | setVariable name value => exact hs

theorem Bounded.perform (hs : s.Bounded) (c : Command) : (s.perform c).Bounded := by
  cases hentry : s.recorded? c with
  | some e => exact (perform_moves hentry).bounded
  | none => exact hs.of_recorded?_eq_none hentry

theorem Bounded.run (hs : s.Bounded) (cs : List Command) : (s.run cs).Bounded :=
  run_induction hs (fun _ c h => h.perform c) cs

/-- Some list of commands leads there. -/
def Reachable (s : Simulator) : Prop :=
  ∃ content tags draws cs, s = (begin content tags draws).run cs

theorem bounded_begin (content : Content) (tags : List String) (draws : Draws) :
    (begin content tags draws).Bounded :=
  Nat.le_refl 0

theorem Reachable.bounded (h : s.Reachable) : s.Bounded := by
  obtain ⟨content, tags, draws, cs, rfl⟩ := h
  exact (bounded_begin content tags draws).run cs

theorem Moves.position_eq (h : s.Moves e t) (hs : s.Bounded) : t.position = s.position + 1 := by
  rw [h.position, List.length_take, Nat.min_eq_left hs]

/-- What lies behind stays, the new entry comes next, and nothing lies ahead. -/
theorem Moves.getElem?_history (h : s.Moves e t) (hs : s.Bounded) (k : Nat) :
    t.history[k]? =
      if k < s.position then s.history[k]? else if k = s.position then some e else none := by
  have hlength : (s.history.take s.position).length = s.position := List.length_take_of_le hs
  rw [h.history]
  split
  · next hk => rw [List.getElem?_append_left (hlength.symm ▸ hk), List.getElem?_take_of_lt hk]
  · next hk =>
      rw [List.getElem?_append_right (hlength.symm ▸ Nat.le_of_not_lt hk), hlength,
        List.getElem?_singleton]
      have hplace : k - s.position = 0 ↔ k = s.position := by omega
      simp only [hplace]

/-! ## Where the step on display belongs -/

/-- The step on display has the id that the location means. -/
def Located (s : Simulator) : Prop :=
  ∀ step, s.current = some step → Text.lower step.id = Text.lower (Text.trim s.location)

/-- The step on display was selected at the location, for some player. -/
def Selected (s : Simulator) : Prop :=
  ∀ step, s.current = some step → ∃ counts draws,
    (selectStep s.config.preferredTagWeight s.location counts s.content.steps draws).1 = some step

theorem Selected.located (h : s.Selected) : s.Located := by
  intro step hstep
  obtain ⟨counts, draws, hselected⟩ := h step hstep
  exact lower_id_of_selectStep hselected

theorem Selected.mem_steps (h : s.Selected) {step : Step} (hstep : s.current = some step) :
    step ∈ s.content.steps := by
  obtain ⟨counts, draws, hselected⟩ := h step hstep
  exact mem_steps_of_selectStep hselected

theorem selected_refresh (s : Simulator) : s.refresh.Selected := by
  intro step hstep
  rw [config, content_refresh, location_refresh]
  unfold refresh at hstep
  split at hstep
  · contradiction
  · exact ⟨s.counts, s.draws, hstep⟩

theorem selected_enter (s : Simulator) (target : String) : (s.enter target).1.Selected := by
  unfold enter
  split
  · exact nofun
  · next step draws hselect =>
      rintro _ ⟨⟩
      have hselected : (s.select target).1 = some step := by rw [hselect]
      exact ⟨s.counts, s.draws, hselected⟩

theorem selected_takeOption (s : Simulator) (step : Step) (o : StepOption)
    (outcome : CheckOutcome) : (s.takeOption step o outcome).1.Selected := by
  unfold takeOption
  cases targetOf o outcome with
  | none => exact selected_refresh _
  | some target => exact selected_enter _ target

theorem selected_setLocation (s : Simulator) (location : String) :
    (s.setLocation location).Selected := by
  have hmoved := selected_refresh { s with location := location }
  unfold setLocation
  simp only
  split
  · exact hmoved
  · split <;> exact hmoved

/-- A command selects the step on display, or leaves it where it is. -/
theorem perform_selected (s : Simulator) (c : Command) :
    (s.perform c).Selected ∨ (s.perform c).current = s.current ∧
      (s.perform c).location = s.location ∧ (s.perform c).content = s.content := by
  cases c with
  | setLocation location => exact .inl (selected_setLocation s location)
  | take index outcome =>
      simp only [perform]
      split
      · next t e htake =>
          obtain ⟨step, o, result, hresult⟩ := exists_takeOption_of_take htake
          have hselected := selected_takeOption s step o result
          rw [hresult] at hselected
          exact .inl hselected
      · exact .inr ⟨rfl, rfl, rfl⟩
  | back =>
      simp only [perform, back]
      split
      · exact .inr ⟨rfl, rfl, rfl⟩
      · split
        · exact .inr ⟨rfl, rfl, rfl⟩
        · exact .inl (selected_refresh _)
  | jumpTo index =>
      rw [perform]
      obtain hsame | ⟨k, e, -, hjump⟩ := s.jumpTo_cases index
      · rw [hsame]
        exact .inr ⟨rfl, rfl, rfl⟩
      · rw [hjump]
        exact .inl (selected_refresh _)
  | reset => exact .inl (selected_refresh _)
  | addTag tag => exact .inl (selected_refresh _)
  | removeTag tag => exact .inl (selected_refresh _)
  | setVariable name value => exact .inr ⟨rfl, rfl, rfl⟩

theorem Located.perform (hs : s.Located) (c : Command) : (s.perform c).Located := by
  obtain hselected | ⟨hcurrent, hlocation, -⟩ := s.perform_selected c
  · exact hselected.located
  · rw [Located, hcurrent, hlocation]
    exact hs

theorem Selected.perform (hs : s.Selected) (c : Command) : (s.perform c).Selected := by
  obtain hselected | ⟨hcurrent, hlocation, hcontent⟩ := s.perform_selected c
  · exact hselected
  · rw [Selected, config, hcurrent, hlocation, hcontent]
    exact hs

theorem Reachable.selected (h : s.Reachable) : s.Selected := by
  obtain ⟨content, tags, draws, cs, rfl⟩ := h
  exact run_induction nofun (fun _ c hs => hs.perform c) cs

/-! ## Tracing entries -/

/-- The entry at place `k` was recorded by the command `c` after the commands `earlier`, and has
stood there while the commands `later` followed. -/
structure Traced (start : Simulator) (k : Nat) (e : HistoryEntry) (earlier : List Command)
    (c : Command) (later : List Command) : Prop where
  place : (start.run earlier).position = k
  recorded : (start.run earlier).recorded? c = some e
  stands : ∀ cs, cs <+: later → (start.run (earlier ++ c :: cs)).history[k]? = some e

theorem Traced.concat {start : Simulator} {earlier later : List Command} {d : Command}
    (h : start.Traced k e earlier c later)
    (stands : (start.run (earlier ++ c :: (later ++ [d]))).history[k]? = some e) :
    start.Traced k e earlier c (later ++ [d]) where
  place := h.place
  recorded := h.recorded
  stands := by
    intro cs hcs
    rcases List.prefix_concat_iff.mp hcs with rfl | hcs
    · exact stands
    · exact h.stands cs hcs

/-- Every entry of the history has been recorded by some command of the run. -/
theorem exists_traced {start : Simulator} (hstart : start.Bounded) (hempty : start.history = [])
    (cs : List Command) (h : (start.run cs).history[k]? = some e) :
    ∃ earlier c later, cs = earlier ++ c :: later ∧ start.Traced k e earlier c later := by
  -- By induction on the run from its end: the last command decides what happens to the entry.
  induction cs using List.reverseRecOn with
  | nil => simp [run, hempty] at h
  | append_singleton cs c ih =>
      have hs : (start.run cs).Bounded := hstart.run cs
      -- An entry that was there before the last command is traced as before.
      have hbefore : (start.run cs).history[k]? = some e →
          ∃ earlier d later, cs ++ [c] = earlier ++ d :: later ∧
            start.Traced k e earlier d later := by
        intro hold
        obtain ⟨earlier, d, later, hcs, htraced⟩ := ih hold
        have hsplit : cs ++ [c] = earlier ++ d :: (later ++ [c]) := by
          rw [hcs, List.append_assoc, List.cons_append]
        exact ⟨earlier, d, later ++ [c], hsplit, htraced.concat (hsplit ▸ h)⟩
      have hnow : (start.run (cs ++ [c])).history[k]? = some e := h
      rw [run_concat] at h
      cases hentry : (start.run cs).recorded? c with
      | none =>
          obtain hkept | ⟨-, hcleared⟩ := history_of_recorded?_eq_none hentry
          · exact hbefore (hkept ▸ h)
          · simp [hcleared] at h
      | some new =>
          rw [(perform_moves hentry).getElem?_history hs] at h
          split at h
          · exact hbefore h
          · split at h
            · next hplace =>
                obtain rfl : new = e := Option.some.inj h
                refine ⟨cs, c, [], rfl, ⟨hplace.symm, hentry, ?_⟩⟩
                intro ds hds
                obtain rfl := List.prefix_nil.mp hds
                exact hnow
            · contradiction

/-- Jumping to a recorded move brings back the player and the place as they were right after it. -/
theorem Moves.jumpTo {before after : Simulator} (h : before.Moves e after)
    (hentry : s.history[k]? = some e) :
    (s.jumpTo k).player.tags = after.player.tags ∧ (s.jumpTo k).player.vars = after.player.vars ∧
      (s.jumpTo k).location = after.location := by
  have hplace : ¬ ((k : Int) < 0) := by omega
  simp only [Simulator.jumpTo, hplace, if_false, Int.toNat_natCast, hentry, player_refresh,
    location_refresh]
  exact ⟨h.tagsAfter, h.varsAfter, h.destination⟩

/-- After every run the position lies within the history; a command that records a move drops
exactly the moves that lay ahead, and every other one leaves the history as it is or empties it;
the step on display is one that the location means; and each entry of the history was recorded by
some command of the run, has stood at its place since, and jumping to it brings back the tags, the
variables and the location that there were right after that command. -/
theorem history_faithful (content : Content) (tags : List String) (draws : Draws)
    (cs : List Command) :
    let start := begin content tags draws
    let s := start.run cs
    (-1 ≤ (s.position : Int) - 1 ∧ (s.position : Int) - 1 < s.history.length) ∧
      (∀ c e, s.recorded? c = some e →
        (s.perform c).history = s.history.take s.position ++ [e] ∧
          (s.perform c).position = s.position + 1) ∧
      (∀ c, s.recorded? c = none →
        (s.perform c).history = s.history ∨ (c = .reset ∧ (s.perform c).history = [])) ∧
      (∀ step, s.current = some step →
        Text.lower step.id = Text.lower (Text.trim s.location)) ∧
      ∀ k e, s.history[k]? = some e → ∃ earlier c later, cs = earlier ++ c :: later ∧
        start.Traced k e earlier c later ∧
          let after := start.run (earlier ++ [c])
          (s.jumpTo k).player.tags = after.player.tags ∧
            (s.jumpTo k).player.vars = after.player.vars ∧
            (s.jumpTo k).location = after.location := by
  intro start s
  have hstart : start.Bounded := bounded_begin content tags draws
  have hs : s.Bounded := hstart.run cs
  have hlocated : s.Located := run_induction nofun (fun _ c h => h.perform c) cs
  refine ⟨⟨by omega, ?_⟩, ?_, fun c => history_of_recorded?_eq_none, hlocated, ?_⟩
  · have hposition : s.position ≤ s.history.length := hs
    omega
  · intro c e hentry
    have hmoves := perform_moves hentry
    exact ⟨hmoves.history, hmoves.position_eq hs⟩
  · intro k e hentry
    obtain ⟨earlier, c, later, hcs, htraced⟩ := exists_traced hstart rfl cs hentry
    refine ⟨earlier, c, later, hcs, htraced, ?_⟩
    rw [run_concat]
    exact (perform_moves htraced.recorded).jumpTo hentry

end Questline.Simulator
