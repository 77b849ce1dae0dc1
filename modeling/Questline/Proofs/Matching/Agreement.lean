import Questline.Proofs.Tag.Marks
import Questline.Simulator

/-!
# Agreement on conditions

Conditions are looked at in several ways: a list of tokens is met or some of
them are missing, an option is available, shown or flagged, a step is eligible,
scored or analyzed.  All ways come to the same verdict.  They differ only in
what they look at: internal names never count against an option, and always
against a step.
-/

namespace Questline

variable {α : Type} {config : Config} {counts : Counts} {token : String}

/-! ## Tokens -/

theorem unmetConditions_eq_filter (scope : Scope) (counts : Counts) (tokens : List String) :
    unmetConditions scope counts tokens =
      tokens.filter fun token => !conditionHolds scope counts token := by
  induction tokens with
  | nil => rfl
  | cons token tokens ih =>
      rw [unmetConditions, ih]
      cases hholds : conditionHolds scope counts token with
      | true => simp [hholds]
      | false => simp [hholds]

theorem unmetConditions_eq_nil_iff (scope : Scope) (counts : Counts) (tokens : List String) :
    unmetConditions scope counts tokens = [] ↔ conditionsMet scope counts tokens = true := by
  rw [unmetConditions_eq_filter, List.filter_eq_nil_iff, conditionsMet, List.all_eq_true]
  simp only [Bool.not_eq_true', Bool.not_eq_false]

theorem conditionHolds_eq_true_iff {scope : Scope} :
    conditionHolds scope counts token = true ↔
      scope.skips (Tag.ofToken token) = true ∨ (Tag.ofToken token).Satisfied counts := by
  rw [← Tag.met_eq_true_iff, conditionHolds, Bool.or_eq_true]

/-- What is missing are the tokens that are looked at and not satisfied. -/
theorem mem_unmetConditions_iff {scope : Scope} {tokens : List String} :
    token ∈ unmetConditions scope counts tokens ↔ token ∈ tokens ∧
      scope.skips (Tag.ofToken token) = false ∧ ¬ (Tag.ofToken token).Satisfied counts := by
  rw [unmetConditions_eq_filter, List.mem_filter, Bool.not_eq_true', ← Bool.not_eq_true,
    conditionHolds_eq_true_iff, not_or, Bool.not_eq_true]

/-! ## Options -/

theorem isEmpty_missingTokens (config : Config) (o : OptionOf α) (counts : Counts) :
    (missingTokens config o counts).isEmpty = isAvailable config o counts := by
  rw [Bool.eq_iff_iff, List.isEmpty_iff]
  exact unmetConditions_eq_nil_iff _ counts o.tags

theorem viewOption_available (config : Config) (p : Player) (index : Nat) (o : OptionOf α) :
    (viewOption config p index o).available = isAvailable config o (p.effectiveCounts config) :=
  isEmpty_missingTokens config o _

/-- The flag of an option that is shown tells whether it is available to the player. -/
theorem available_of_mem_visibleOptions {options : List (OptionOf α)} {p : Player}
    {v : OptionViewOf α} (h : v ∈ visibleOptions config options p) :
    v.available = isAvailable config v.option (p.effectiveCounts config) := by
  obtain ⟨index, hindex, rfl⟩ := List.mem_mapIdx.mp (List.mem_filter.mp h).1
  exact viewOption_available config p index _

theorem map_mapIdx {β γ : Type} (g : β → γ) (f : Nat → α → β) (xs : List α) :
    (xs.mapIdx f).map g = xs.mapIdx fun index x => g (f index x) := by
  rw [List.mapIdx_eq_zipIdx_map, List.mapIdx_eq_zipIdx_map, List.map_map]
  rfl

/-- Every option under its own index, and whether it is available. -/
def flaggedOptions (config : Config) (counts : Counts) (options : List (OptionOf α)) :
    List (Nat × OptionOf α × Bool) :=
  options.mapIdx fun index o => (index, o, isAvailable config o counts)

/-- All options are shown in order, but for the hidden ones that are not available. -/
theorem map_visibleOptions (config : Config) (options : List (OptionOf α)) (p : Player) :
    (visibleOptions config options p).map (fun v => (v.index, v.option, v.available)) =
      (flaggedOptions config (p.effectiveCounts config) options).filter fun v =>
        !(v.2.1.hidden && !v.2.2) := by
  have hflagged : flaggedOptions config (p.effectiveCounts config) options =
      (options.mapIdx (viewOption config p)).map fun v => (v.index, v.option, v.available) := by
    simp only [map_mapIdx, viewOption_available]
    rfl
  rw [hflagged, List.filter_map, visibleOptions]
  congr 1
  apply List.filter_congr
  intro v _
  simp [Bool.or_comm]

theorem map_options_simulator (w : Simulator) :
    w.options.map (fun v => (v.index, v.option, v.available)) =
      flaggedOptions w.config w.counts ((w.patchedStep.map (·.options)).getD []) := by
  rw [Simulator.options]
  cases w.patchedStep with
  | none => rfl
  | some step =>
      dsimp only [Option.map_some, Option.getD_some]
      simp only [map_mapIdx, flaggedOptions, ← isEmpty_missingTokens]
      rfl

/-! ## Steps -/

/-- A token is left out of the analysis of a step if it is no condition, and then nothing can stand
against it. -/
theorem conditionHolds_eq_satisfied (counts : Counts) (token : String) :
    conditionHolds everyCondition counts token =
      (analyzeToken counts token).all (·.satisfied) := by
  have hholds : conditionHolds everyCondition counts token = (Tag.ofToken token).met counts := rfl
  rw [hholds, analyzeToken]
  split
  · rfl
  · next hcondition => rw [Tag.met, if_neg hcondition, Option.all_none]

theorem eligible_analyzeStep (weight : Int) (counts : Counts) (s : Step) :
    (analyzeStep weight counts s).eligible = eligible counts s := by
  rw [analyzeStep, eligible, conditionsMet]
  dsimp only
  rw [List.all_filterMap]
  congr 1
  funext token
  rw [conditionHolds_eq_satisfied]
  cases analyzeToken counts token with
  | none => rfl
  | some analysis => rfl

theorem score_analyzeStep {weight : Int} {s : Step} (h : eligible counts s = true) :
    (analyzeStep weight counts s).score = score weight counts s := by
  have heligible := eligible_analyzeStep weight counts s
  rw [h] at heligible
  exact if_pos heligible

theorem scoredSteps_eq_analyzed (weight : Int) (id : String) (counts : Counts)
    (steps : List Step) :
    scoredSteps weight id counts steps =
      ((candidates id steps).filter fun s => (analyzeStep weight counts s).eligible).map fun s =>
        (s, (analyzeStep weight counts s).score) := by
  simp only [scoredSteps, eligibleSteps, eligible_analyzeStep]
  apply List.map_congr_left
  intro s hs
  rw [score_analyzeStep (List.mem_filter.mp hs).2]

/-! ## All together -/

/-- Tokens are met if and only if none of them is missing, and missing are those that are looked at
and not satisfied.  So an option is available exactly if nothing is missing for it, and flagged so
wherever it is shown; and a step is eligible, and has its score, exactly as its analysis says. -/
theorem conditions_judged_alike :
    (∀ scope counts tokens,
      (conditionsMet scope counts tokens = true ↔ unmetConditions scope counts tokens = []) ∧
        ∀ token, token ∈ unmetConditions scope counts tokens ↔ token ∈ tokens ∧
          scope.skips (Tag.ofToken token) = false ∧ ¬ (Tag.ofToken token).Satisfied counts) ∧
    (∀ config (o : StepOption) counts,
      isAvailable config o counts = true ↔ missingTokens config o counts = []) ∧
    (∀ config (s : Step) p,
      (visibleOptions config s.options p).map (fun v => (v.index, v.option, v.available)) =
        (flaggedOptions config (p.effectiveCounts config) s.options).filter fun v =>
          !(v.2.1.hidden && !v.2.2)) ∧
    (∀ w : Simulator, w.options.map (fun v => (v.index, v.option, v.available)) =
      flaggedOptions w.config (w.player.effectiveCounts w.config)
        ((w.patchedStep.map (·.options)).getD [])) ∧
    ∀ weight counts,
      (∀ s, eligible counts s = (analyzeStep weight counts s).eligible) ∧
      ∀ id steps, scoredSteps weight id counts steps =
        ((candidates id steps).filter fun s => (analyzeStep weight counts s).eligible).map fun s =>
          (s, (analyzeStep weight counts s).score) := by
  refine ⟨?_, ?_, ?_, map_options_simulator, ?_⟩
  · intro scope counts tokens
    exact ⟨(unmetConditions_eq_nil_iff scope counts tokens).symm,
      fun token => mem_unmetConditions_iff⟩
  · intro config o counts
    rw [← isEmpty_missingTokens, List.isEmpty_iff]
  · intro config s p
    exact map_visibleOptions config s.options p
  · intro weight counts
    exact ⟨fun s => (eligible_analyzeStep weight counts s).symm,
      fun id steps => scoredSteps_eq_analyzed weight id counts steps⟩

end Questline
