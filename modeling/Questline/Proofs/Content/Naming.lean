import Questline.Patching
import Questline.Proofs.Content.Indexes
import Questline.Proofs.Content.Soundness
import Questline.Proofs.Content.Targets
import Questline.Proofs.Matching.Search
import Questline.Proofs.Session.Pursuit
import Questline.Proofs.Text.Blanks

/-!
# What goes by an id

No step of content that was built has the id of a patch, so the index of steps
leads to all candidates for an id, and the index of patches to all that can
apply to a step.  White space is taken off an id that is asked for and left on
the id of a step, which then goes by no id at all.
-/

namespace Questline

/-! ## Patches for a step -/

theorem applicable_patchesFor (c : Content) (base : Step) (counts : Counts) :
    applicable base (c.patchesFor base.id) counts = applicable base c.patches counts := by
  apply c.filter_patchesFor
  intro p happlies
  rw [patchApplies, Bool.and_eq_true, Bool.and_eq_true] at happlies
  exact happlies.1.1

theorem patchesTested_patchesFor (c : Content) (base : Step) :
    patchesTested base (c.patchesFor base.id) = patchesTested base c.patches := by
  apply c.filter_patchesFor
  intro p htested
  exact (Bool.and_eq_true_iff.mp htested).1

theorem compose_patchesFor (c : Content) (separator : String) (base : Step) (counts : Counts) :
    compose separator base (c.patchesFor base.id) counts =
      compose separator base c.patches counts := by
  rw [compose, compose, applicable_patchesFor]

theorem patch_patchesFor (c : Content) (config : Config) (base : Step) (seeker : Seeker) :
    patch config base (c.patchesFor base.id) seeker = patch config base c.patches seeker := by
  simp only [patch, tokensTested, patchesTested_patchesFor, compose_patchesFor]

/-! ## Steps at an id -/

namespace Content

variable {payload : Payload} {source : Option String} {c : Content} {s : Step}

theorem isPatchId_of_build (h : build source payload = .ok c) (hs : s ∈ c.steps) :
    isPatchId s.id = false := by
  obtain ⟨r, hsound⟩ := exists_soundStep (built_of_build h) hs
  exact hsound.plain

/-- What is looked up by an id or by a step is what a search through all steps or all patches
gives. -/
theorem indexes_agree_with_scans (h : build source payload = .ok c) :
    (∀ id, c.stepsFor (Text.trim id) = candidates id c.steps) ∧
      (∀ id, c.hasStep id = true ↔ c.stepsFor id ≠ []) ∧
      (∀ separator base counts, compose separator base (c.patchesFor base.id) counts =
        compose separator base c.patches counts) ∧
      ∀ config base seeker, patch config base (c.patchesFor base.id) seeker =
        patch config base c.patches seeker := by
  refine ⟨?_, fun id => hasStep_iff, compose_patchesFor c, patch_patchesFor c⟩
  intro id
  rw [stepsFor_eq, candidates]
  apply List.filter_congr
  intro s hs
  rw [Bool.eq_iff_iff, isCandidate_iff, decide_eq_true_eq]
  constructor
  · intro hsame
    exact ⟨hsame, isPatchId_of_build h hs⟩
  · exact And.left

def gateAt (id : String) : Step where
  id := id
  text := "A gate."

def twoGates : Payload :=
  .ofJson (.obj [("steps", .arr [gateStep "Gate" .null, gateStep "GATE" .null, gatePatch])])

theorem indexes_agree_with_scans_at_gates :
    let gates := [gateAt "Gate", gateAt "GATE"]
    ∃ c, build none twoGates = .ok c ∧ candidates " gate " c.steps = gates ∧
      c.stepsFor "gate" = gates ∧ c.hasStep "gate" = true := by
  intro gates
  obtain ⟨c, hbuild, hsteps⟩ : ∃ c, build none twoGates = .ok c ∧ c.steps = gates :=
    ⟨_, rfl, rfl⟩
  obtain ⟨hscan, hhas, -, -⟩ := indexes_agree_with_scans hbuild
  have hcandidates : candidates " gate " c.steps = gates := by
    rw [hsteps]
    decide +kernel
  have hfor : c.stepsFor "gate" = gates := (hscan " gate ").trans hcandidates
  refine ⟨c, hbuild, hcandidates, hfor, (hhas "gate").mpr ?_⟩
  rw [hfor]
  exact List.cons_ne_nil _ _

/-! ## Steps under their own ids -/

theorem mem_candidates_self_iff (hs : s ∈ c.steps) (hplain : isPatchId s.id = false) :
    s ∈ candidates s.id c.steps ↔ Text.trim s.id = s.id := by
  rw [candidates, List.mem_filter, isCandidate_iff]
  constructor
  · rintro ⟨-, hsame, -⟩
    exact Text.trim_of_lower_eq_lower_trim hsame
  · intro htrim
    exact ⟨hs, by rw [htrim], hplain⟩

theorem not_mem_candidates (htrim : Text.trim s.id ≠ s.id) (id : String) (steps : List Step) :
    s ∉ candidates id steps := by
  intro hcandidate
  have hnamed := (isCandidate_iff.mp (List.mem_filter.mp hcandidate).2).1
  exact htrim (Text.trim_of_lower_eq_lower_trim hnamed)

theorem destination_of_mem (hs : s ∈ c.steps) (htrim : Text.trim s.id = s.id) :
    Session.destination c s.id = s.id := by
  have hhas : c.hasStep s.id = true := by
    rw [hasStep_iff, stepsFor_eq]
    exact List.ne_nil_of_mem (List.mem_filter.mpr ⟨hs, by simp⟩)
  rw [Session.destination, htrim, if_pos hhas]

/-- A step goes by its own id, and is a candidate for what leads to this id, exactly if no white
space stands at the ends of the id; otherwise it goes by no id at all. -/
theorem goes_by_own_id_iff (h : build source payload = .ok c) (hs : s ∈ c.steps) :
    (s ∈ candidates s.id c.steps ↔ Text.trim s.id = s.id) ∧
      (Text.trim s.id ≠ s.id → ∀ id, s ∉ candidates id c.steps) ∧
      (Text.trim s.id = s.id → ∀ (t : Session) (a : Session.Action) (p : Pursuit), t.content = c →
        t.pursued? a = some p → a = .navigate s.id ∨ p.target = s.id →
        s ∈ candidates p.target p.session.content.steps) := by
  have hplain := isPatchId_of_build h hs
  have hself := mem_candidates_self_iff hs hplain
  refine ⟨hself, fun htrim id => not_mem_candidates htrim id c.steps, ?_⟩
  intro htrim t a p ht hpursued hled
  have htarget : p.target = s.id := by
    rcases hled with rfl | htarget
    · obtain rfl := Option.some.inj hpursued
      rw [ht]
      exact destination_of_mem hs htrim
    · exact htarget
  rw [htarget, Session.content_of_pursued? hpursued, ht]
  exact hself.mpr htrim

theorem goes_by_own_id_at_gates :
    ∃ c p, build none twoGates = .ok c ∧ gateAt "Gate" ∈ c.steps ∧
      (Session.begin c none {}).pursued? (.navigate "Gate") = some p ∧
      gateAt "Gate" ∈ candidates p.target p.session.content.steps := by
  obtain ⟨c, hbuild, hgate⟩ : ∃ c, build none twoGates = .ok c ∧ gateAt "Gate" ∈ c.steps :=
    ⟨_, rfl, List.mem_cons_self⟩
  have htrim : Text.trim "Gate" = "Gate" := by decide +kernel
  obtain ⟨-, -, hled⟩ := goes_by_own_id_iff hbuild hgate
  exact ⟨c, _, hbuild, hgate, rfl,
    hled htrim (Session.begin c none {}) (.navigate "Gate") _ rfl rfl (.inl rfl)⟩

/-- A step with white space before its id, to which an option leads by this very id: validation
has nothing to say about it, and nothing is found at the id. -/
theorem white_space_hides_step :
    validate spacedGate = .ok {} ∧ ∃ c, build none spacedGate = .ok c ∧
      ∃ s ∈ c.steps, s.id = " Gate" ∧ (∃ o ∈ s.options, o.passTarget = some s.id) ∧
        s ∉ candidates s.id c.steps ∧
        ((Session.begin c none {}).navigate s.id).outcome = some .nothingHere := by
  refine ⟨rfl, _, rfl, _, List.mem_cons_self, rfl, ⟨_, List.mem_cons_self, rfl⟩, ?_, ?_⟩
  · decide +kernel
  · decide +kernel

end Content

end Questline
