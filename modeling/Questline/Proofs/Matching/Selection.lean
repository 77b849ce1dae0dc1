import Questline.Session
import Mathlib.Data.List.MinMax

/-!
# Selecting a step

A step is selected exactly when some step is eligible: scores only decide which
of the eligible steps it is.  In particular the step that is selected is one
that the id means.
-/

namespace Questline

theorem Draws.choose_fst_eq_none_iff {α : Type} (d : Draws) {xs : List α} :
    (d.choose xs).1 = none ↔ xs = [] := by
  constructor
  · intro hnone
    by_contra hxs
    have hsome := d.choose_isSome hxs
    simp [hnone] at hsome
  · rintro rfl
    rfl

theorem Draws.mem_of_choose {α : Type} {d : Draws} {xs : List α} {x : α}
    (h : (d.choose xs).1 = some x) : x ∈ xs := by
  unfold choose at h
  split at h
  · contradiction
  · exact List.mem_of_getElem? h

theorem exists_mem_of_mem_best {α : Type} {scored : List (α × Int)} {x : α}
    (h : x ∈ best scored) : ∃ n, (x, n) ∈ scored := by
  obtain ⟨⟨x, n⟩, hmem, rfl⟩ := List.mem_map.mp h
  exact ⟨n, (List.mem_filter.mp hmem).1⟩

/-- Something is best as soon as there is anything at all. -/
theorem best_eq_nil_iff {α : Type} {scored : List (α × Int)} : best scored = [] ↔ scored = [] := by
  constructor
  · intro hbest
    by_contra hscored
    obtain ⟨p, hp⟩ := Option.ne_none_iff_exists'.mp
      (mt List.argmax_eq_none.mp hscored : List.argmax Prod.snd scored ≠ none)
    have htop : ∀ q ∈ scored, q.2 ≤ p.2 := fun q hq => List.le_of_mem_argmax hq hp
    have hmem : p.1 ∈ best scored := by
      refine List.mem_map.mpr ⟨p, List.mem_filter.mpr ⟨List.argmax_mem hp, ?_⟩, rfl⟩
      simpa using fun a b hab => htop (a, b) hab
    simp [hbest] at hmem
  · rintro rfl
    rfl

theorem selectStep_fst_eq_none_iff {weight : Int} {id : String} {counts : Counts}
    {steps : List Step} {draws : Draws} :
    (selectStep weight id counts steps draws).1 = none ↔ eligibleSteps id counts steps = [] := by
  rw [selectStep, Draws.choose_fst_eq_none_iff, topSteps, best_eq_nil_iff, scoredSteps,
    List.map_eq_nil_iff]

theorem mem_eligibleSteps_of_selectStep {weight : Int} {id : String} {counts : Counts}
    {steps : List Step} {draws : Draws} {step : Step}
    (h : (selectStep weight id counts steps draws).1 = some step) :
    step ∈ eligibleSteps id counts steps := by
  obtain ⟨n, hscored⟩ := exists_mem_of_mem_best (Draws.mem_of_choose h)
  obtain ⟨step, hmem, hpair⟩ := List.mem_map.mp hscored
  rwa [← (Prod.mk.inj hpair).1]

theorem mem_steps_of_selectStep {weight : Int} {id : String} {counts : Counts} {steps : List Step}
    {draws : Draws} {step : Step} (h : (selectStep weight id counts steps draws).1 = some step) :
    step ∈ steps := by
  have hcandidate : step ∈ candidates id steps :=
    (List.mem_filter.mp (mem_eligibleSteps_of_selectStep h)).1
  exact (List.mem_filter.mp hcandidate).1

/-- The id of a step that is selected is the one it was selected for, white space around the latter
and the case of letters aside. -/
theorem lower_id_of_selectStep {weight : Int} {id : String} {counts : Counts} {steps : List Step}
    {draws : Draws} {step : Step} (h : (selectStep weight id counts steps draws).1 = some step) :
    Text.lower step.id = Text.lower (Text.trim id) := by
  have hcandidate : step ∈ candidates id steps :=
    (List.mem_filter.mp (mem_eligibleSteps_of_selectStep h)).1
  have hmeant : isCandidate id step = true := (List.mem_filter.mp hcandidate).2
  rw [isCandidate, Bool.and_eq_true] at hmeant
  exact beq_iff_eq.mp hmeant.1

/-- A session selects no step for an id exactly when none is eligible for its player. -/
theorem Session.select_fst_eq_none_iff {s : Session} {id : String} :
    (s.select id).1 = none ↔
      eligibleSteps id (s.player.effectiveCounts s.config) s.content.steps = [] :=
  selectStep_fst_eq_none_iff

end Questline
