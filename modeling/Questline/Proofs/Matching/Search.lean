import Mathlib.Tactic.Ring
import Questline.Proofs.Attempt
import Questline.Proofs.Matching.Selection
import Questline.Proofs.Tag.Marks
import Questline.Proofs.Tag.WellFormed
import Questline.Search

/-!
# What a search finds

The conditions of a step must all hold before it is scored, so its score is
known from its tokens alone.  Of the steps that fit the id and the counts a
search finds one of the greatest score: any of them with some draw, and no other
with any.
-/

namespace Questline

variable {weight : Int} {id : String} {counts : Counts} {steps : List Step} {s : Step}

/-! ## Steps that fit -/

/-- A step that is meant by an id and that the counts let one enter. -/
structure Fits (id : String) (counts : Counts) (s : Step) : Prop where
  named : Text.lower s.id = Text.lower (Text.trim id)
  notPatch : isPatchId s.id = false
  satisfied : ∀ token ∈ s.tags, (Tag.ofToken token).Satisfied counts

/-- Of the steps that fit, one that no other outscores. -/
structure IsBest (weight : Int) (id : String) (counts : Counts) (steps : List Step) (s : Step) :
    Prop where
  mem : s ∈ steps
  fits : Fits id counts s
  greatest : ∀ other ∈ steps, Fits id counts other →
    score weight counts other ≤ score weight counts s

theorem conditionHolds_everyCondition {token : String} :
    conditionHolds everyCondition counts token = true ↔ (Tag.ofToken token).Satisfied counts := by
  rw [← Tag.met_eq_true_iff]
  simp [conditionHolds, everyCondition, Scope.skips]

theorem eligible_iff :
    eligible counts s = true ↔ ∀ token ∈ s.tags, (Tag.ofToken token).Satisfied counts := by
  simp only [eligible, conditionsMet, List.all_eq_true, conditionHolds_everyCondition]

theorem isCandidate_iff : isCandidate id s = true ↔
    Text.lower s.id = Text.lower (Text.trim id) ∧ isPatchId s.id = false := by
  rw [isCandidate, Bool.and_eq_true, beq_iff_eq, Bool.not_eq_true']

theorem mem_eligibleSteps_iff : s ∈ eligibleSteps id counts steps ↔ s ∈ steps ∧ Fits id counts s := by
  rw [eligibleSteps, List.mem_filter, candidates, List.mem_filter, isCandidate_iff, eligible_iff]
  constructor
  · rintro ⟨⟨hmem, hnamed, hplain⟩, hsatisfied⟩
    exact ⟨hmem, hnamed, hplain, hsatisfied⟩
  · rintro ⟨hmem, hfits⟩
    exact ⟨⟨hmem, hfits.named, hfits.notPatch⟩, hfits.satisfied⟩

/-! ## Scores -/

theorem tokenScore_of_satisfied {token : String}
    (h : (Tag.ofToken token).Satisfied counts) :
    tokenScore weight counts token = if Text.leads "@" token then weight else 0 := by
  simp only [tokenScore, Tag.met_eq_true_iff.mpr h, Bool.and_true, decide_eq_true_eq,
    Tag.operator_ofToken_eq_prefer_iff]

/-- Every preferred token of an eligible step counts. -/
theorem score_of_eligible (h : eligible counts s = true) :
    score weight counts s = weight * s.tags.countP (Text.leads "@") := by
  rw [eligible_iff] at h
  rw [score]
  generalize s.tags = tokens at h
  induction tokens with
  | nil => simp [total]
  | cons token tokens ih =>
      obtain ⟨hfirst, hrest⟩ := List.forall_mem_cons.mp h
      rw [List.map_cons, total, ih hrest, tokenScore_of_satisfied hfirst, List.countP_cons]
      split
      · push_cast
        ring
      · simp

/-! ## The best -/

theorem mem_best_iff {α : Type} {scored : List (α × Int)} {x : α} :
    x ∈ best scored ↔ ∃ n, (x, n) ∈ scored ∧ ∀ q ∈ scored, q.2 ≤ n := by
  simp only [best, List.mem_map, List.mem_filter, List.all_eq_true, decide_eq_true_eq]
  constructor
  · rintro ⟨⟨x, n⟩, ⟨hmem, hgreatest⟩, rfl⟩
    exact ⟨n, hmem, hgreatest⟩
  · rintro ⟨n, hmem, hgreatest⟩
    exact ⟨(x, n), ⟨hmem, hgreatest⟩, rfl⟩

theorem mem_topSteps_iff :
    s ∈ topSteps weight id counts steps ↔ IsBest weight id counts steps s := by
  rw [topSteps, mem_best_iff]
  simp only [scoredSteps, List.mem_map, Prod.mk.injEq, forall_exists_index, and_imp,
    forall_apply_eq_imp_iff₂]
  constructor
  · rintro ⟨n, ⟨step, hstep, rfl, rfl⟩, hgreatest⟩
    obtain ⟨hmem, hfits⟩ := mem_eligibleSteps_iff.mp hstep
    exact ⟨hmem, hfits, fun other hother hfit =>
      hgreatest other (mem_eligibleSteps_iff.mpr ⟨hother, hfit⟩)⟩
  · intro h
    refine ⟨_, ⟨s, mem_eligibleSteps_iff.mpr ⟨h.mem, h.fits⟩, rfl, rfl⟩, ?_⟩
    intro other hother
    obtain ⟨hmem, hfit⟩ := mem_eligibleSteps_iff.mp hother
    exact h.greatest other hmem hfit

/-! ## Draws -/

namespace Draws

variable {α : Type} {xs : List α} {x : α}

/-- Choosing takes one number, unless there is nothing to choose. -/
theorem exists_choose_eq (d : Draws) (hne : xs ≠ []) :
    ∃ x ∈ xs, d.choose xs = (some x, (d.pick xs.length).2) := by
  obtain ⟨x, hx⟩ := Option.isSome_iff_exists.mp (d.choose_isSome hne)
  refine ⟨x, mem_of_choose hx, ?_⟩
  rw [← hx, choose_of_ne_nil d hne]

/-- Every element is chosen with some number. -/
theorem exists_pending_choose (h : x ∈ xs) :
    ∃ n, ∀ rest decisions, (choose ⟨n :: rest, decisions⟩ xs).1 = some x := by
  obtain ⟨n, hlt, hget⟩ := List.mem_iff_getElem.mp h
  refine ⟨n, fun rest decisions => ?_⟩
  rw [choose_of_ne_nil _ (List.ne_nil_of_mem h)]
  simp [pick, Nat.mod_eq_of_lt hlt, List.getElem?_eq_getElem hlt, hget]

end Draws

/-! ## Searching -/

variable {config : Config} {seeker : Seeker} {draws : Draws}

/-- What is told of counts once tokens have been read is stopped where the counts are, and by a
token that cannot be read. -/
theorem told_eq_error_iff {α : Type} {x : Except Fault Counts} {tokens : Counts → List String}
    {answer : Counts → α} {f : Fault} :
    (do let counts ← x; checkTokens (tokens counts); return answer counts) = .error f ↔
      x = .error f ∨ ∃ counts, x = .ok counts ∧ f = .unreadableNumber ∧
        ∃ token ∈ tokens counts, Tag.isReadable token = false := by
  cases x with
  | error g => simp [bind, Except.bind]
  | ok counts =>
      simp only [reduceCtorEq, false_or, Except.ok.injEq, exists_eq_left',
        ← checkTokens_eq_error_iff]
      cases hcheck : checkTokens (tokens counts) with
      | error g => simp [bind, Except.bind, hcheck]
      | ok _ => simp [bind, Except.bind, hcheck, pure, Except.pure]

theorem told_of_readable {α : Type} {x : Except Fault Counts} {tokens : Counts → List String}
    {answer : Counts → α} (hcounts : x = .ok counts)
    (hreadable : ∀ token ∈ tokens counts, Tag.isReadable token = true) :
    (do let counts ← x; checkTokens (tokens counts); return answer counts) =
      .ok (answer counts) := by
  rw [hcounts]
  simp only [bind, Except.bind, checkTokens_eq_ok_iff.mpr hreadable]
  rfl

theorem search_eq_error_iff {f : Fault} :
    search config id seeker steps draws = .error f ↔
      seeker.counts? config = .error f ∨ ∃ counts, seeker.counts? config = .ok counts ∧
        f = .unreadableNumber ∧
        ∃ token ∈ tokensSought id counts steps, Tag.isReadable token = false :=
  told_eq_error_iff

theorem search_of_readable (hcounts : seeker.counts? config = .ok counts)
    (hreadable : ∀ token ∈ tokensSought id counts steps, Tag.isReadable token = true) :
    search config id seeker steps draws =
      .ok (selectStep config.preferredTagWeight id counts steps draws) :=
  told_of_readable hcounts hreadable

/-- The score of a step whose conditions hold is the weight of its preferred tokens.  A search that
nothing stops finds no step exactly if none fits, and draws nothing then; otherwise it draws once
and finds one of the best, each of them with some number.  It is stopped by a level that is too high
and by a token of too many digits alone. -/
theorem search_finds_best (config : Config) (id : String) (seeker : Seeker) (steps : List Step) :
    (∀ counts (s : Step), (∀ token ∈ s.tags, (Tag.ofToken token).Satisfied counts) →
      score config.preferredTagWeight counts s =
        config.preferredTagWeight * s.tags.countP (Text.leads "@")) ∧
    (∀ draws f, search config id seeker steps draws = .error f ↔
      seeker.counts? config = .error f ∨ ∃ counts, seeker.counts? config = .ok counts ∧
        f = .unreadableNumber ∧
        ∃ token ∈ tokensSought id counts steps, Tag.isReadable token = false) ∧
    ∀ counts, seeker.counts? config = .ok counts →
      (∀ token ∈ tokensSought id counts steps, Tag.isReadable token = true) →
      (∀ draws,
        search config id seeker steps draws = .ok (none, draws) ∧
            (∀ s ∈ steps, ¬ Fits id counts s) ∨
          ∃ s size, search config id seeker steps draws = .ok (some s, (draws.pick size).2) ∧
            IsBest config.preferredTagWeight id counts steps s) ∧
      ∀ s, IsBest config.preferredTagWeight id counts steps s →
        ∃ n, ∀ rest decisions, ∃ left,
          search config id seeker steps ⟨n :: rest, decisions⟩ = .ok (some s, left) := by
  refine ⟨?_, ?_, ?_⟩
  · intro counts s hsatisfied
    exact score_of_eligible (eligible_iff.mpr hsatisfied)
  · intro draws f
    exact search_eq_error_iff
  intro counts hcounts hreadable
  refine ⟨?_, ?_⟩
  · intro draws
    rw [search_of_readable hcounts hreadable]
    cases htop : topSteps config.preferredTagWeight id counts steps with
    | nil =>
        have hnone : eligibleSteps id counts steps = [] := by
          rw [topSteps, best_eq_nil_iff, scoredSteps, List.map_eq_nil_iff] at htop
          exact htop
        refine .inl ⟨?_, ?_⟩
        · rw [selectStep, htop]
          rfl
        · intro s hs hfits
          exact List.not_mem_nil (hnone ▸ mem_eligibleSteps_iff.mpr ⟨hs, hfits⟩)
    | cons first rest =>
        obtain ⟨s, hs, hchoose⟩ := draws.exists_choose_eq (List.cons_ne_nil first rest)
        refine .inr ⟨s, (first :: rest).length, ?_, ?_⟩
        · rw [selectStep, htop, hchoose]
        · rw [← htop] at hs
          exact mem_topSteps_iff.mp hs
  · intro s hs
    obtain ⟨n, hn⟩ := Draws.exists_pending_choose (mem_topSteps_iff.mpr hs)
    refine ⟨n, fun rest decisions => ?_⟩
    rw [search_of_readable hcounts hreadable]
    refine ⟨(selectStep config.preferredTagWeight id counts steps ⟨n :: rest, decisions⟩).2, ?_⟩
    rw [Except.ok.injEq, Prod.ext_iff]
    exact ⟨hn rest decisions, rfl⟩

/-- Of two steps for a gate the one that prefers a lantern is the best for whoever carries one, and
some number draws it. -/
theorem search_finds_best_at_gate :
    let counts : Counts := fun name => if name = "lantern" then 1 else 0
    let plain : Step := { id := "Gate", text := "A gate." }
    let lit : Step := { id := "Gate", tags := ["@lantern"], text := "A lit gate." }
    (∀ token ∈ lit.tags, (Tag.ofToken token).Satisfied counts) ∧ score 5 counts lit = 5 ∧
      (∀ token ∈ tokensSought "gate" counts [plain, lit], Tag.isReadable token = true) ∧
      IsBest 5 "gate" counts [plain, lit] lit ∧
      ∃ n, ∀ rest decisions, ∃ left,
        search {} "gate" (.holding counts) [plain, lit] ⟨n :: rest, decisions⟩ =
          .ok (some lit, left) := by
  intro counts plain lit
  obtain ⟨hscore, -, hfound⟩ := search_finds_best {} "gate" (.holding counts) [plain, lit]
  have hsatisfied : ∀ token ∈ lit.tags, (Tag.ofToken token).Satisfied counts := by
    refine List.forall_mem_singleton.mpr (Tag.met_eq_true_iff.mp ?_)
    decide +kernel
  have hlit : score 5 counts lit = 5 := by
    rw [hscore counts lit hsatisfied]
    decide +kernel
  have hreadable : ∀ token ∈ tokensSought "gate" counts [plain, lit],
      Tag.isReadable token = true := by
    decide +kernel
  have hbest : IsBest 5 "gate" counts [plain, lit] lit := by
    constructor
    · exact List.mem_cons_of_mem _ List.mem_cons_self
    · exact ⟨by decide +kernel, by decide +kernel, hsatisfied⟩
    · rw [hlit, List.forall_mem_cons, List.forall_mem_singleton, hlit]
      exact ⟨fun _ => by decide +kernel, fun _ => Int.le_refl 5⟩
  exact ⟨hsatisfied, hlit, hreadable, hbest, (hfound counts rfl hreadable).2 lit hbest⟩

/-- A token that asks for coins in a number of too many digits stops the search, although another
step fits. -/
theorem search_can_stop :
    let coins := Tag.coinsOfOnes (Text.digitLimit + 1)
    let guarded : Step := { id := "Gate", tags := [coins], text := "A guarded gate." }
    let free : Step := { id := "Gate", text := "A gate." }
    Fits "Gate" (fun _ => 0) free ∧
      search {} "Gate" (.holding fun _ => 0) [guarded, free] {} = .error .unreadableNumber := by
  intro coins guarded free
  have hcoins : Tag.isReadable coins = false := Tag.isReadable_too_many_ones
  refine ⟨⟨by decide, by decide, by simp [free]⟩, ?_⟩
  refine search_eq_error_iff.mpr (.inr ⟨_, rfl, rfl, coins, ?_, hcoins⟩)
  have hcandidate : guarded ∈ candidates "Gate" [guarded, free] :=
    List.mem_filter.mpr ⟨List.mem_cons_self, isCandidate_iff.mpr ⟨by decide, by decide⟩⟩
  exact List.mem_flatMap.mpr ⟨guarded, hcandidate, List.mem_cons_self⟩

end Questline
