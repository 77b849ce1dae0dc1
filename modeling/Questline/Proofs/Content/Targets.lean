import Questline.Matching
import Questline.Proofs.Content.Records

/-!
# Where options and patches lead

The targets of options and patches are read from the same members as those that
validation looks up, but by rules of their own.  The two agree on options that
stand in their record, up to white space around a target, and on patches that
have no target beside their id.
-/

namespace Questline

open Validation

def OptionOf.targets {α : Type} (o : OptionOf α) : List α :=
  o.passTarget.toList ++ o.failTarget.toList

namespace Validation

variable {fs : List Finding} {spot : Spot} {p : Problem} {presets : PairTable} {payload : Payload}
  {w x r : Json} {o : StepOption} {os : List StepOption} {t : String}

/-- The target is among those to be looked up. -/
def LooksUp (fs : List Finding) (t : String) : Prop :=
  ∃ l, Finding.optionTarget l ∈ fs ∧ l.target = t

theorem LooksUp.mono {gs : List Finding} (h : LooksUp fs t) (hsub : fs ⊆ gs) : LooksUp gs t := by
  obtain ⟨l, hl, ht⟩ := h
  exact ⟨l, hsub hl, ht⟩

theorem looksUp_of_checkTarget {target : Option String} (hp : p.isWarning = false)
    (h : Clean (checkTarget spot p w)) (hread : convert? Json.asText? w.given? = some target)
    (ht : t ∈ target) : LooksUp (checkTarget spot p w) t := by
  obtain ⟨-, rfl⟩ | ⟨u, -, rfl, -, hcheck⟩ := checkTarget_cases hp h hread
  · contradiction
  · obtain rfl := Option.some.inj ht
    rw [hcheck]
    exact ⟨_, List.mem_singleton.mpr rfl, rfl⟩

/-- What stands behind the mark of a shorthand is looked up. -/
theorem looksUp_of_shorthand {s : String} (h : Clean (checkShorthand spot s))
    (ho : (shorthandOption s).convert? Json.asText? = some o) (ht : t ∈ o.targets) :
    LooksUp (checkShorthand spot s) t := by
  unfold checkShorthand at h ⊢
  split at h
  · exact absurd h (not_clean_problem rfl)
  · next hproper =>
      rw [if_neg hproper]
      unfold shorthandOption optionMark at ho
      split at ho
      · obtain rfl := Option.some.inj ho
        contradiction
      · next label target hcut =>
          rw [hcut]
          dsimp only
          split at ho
          · obtain rfl := Option.some.inj ho
            contradiction
          · next hgiven =>
              obtain rfl := Option.some.inj ho
              obtain rfl := List.mem_singleton.mp ht
              rw [if_neg hgiven]
              exact ⟨_, List.mem_singleton.mpr rfl, rfl⟩

theorem looksUp_of_option (h : Clean (checkOption spot x)) (ho : Content.ReadsOption x o)
    (ht : t ∈ o.targets) : LooksUp (checkOption spot x) t := by
  obtain ⟨a, ha, hconvert⟩ := ho
  cases x with
  | str s =>
      obtain rfl := Except.ok.inj ha
      exact looksUp_of_shorthand h hconvert ht
  | obj ms =>
      obtain rfl := Except.ok.inj ha
      obtain ⟨-, -, -, hpass, hfail⟩ := OptionOf.convert?_eq_some hconvert
      have hclean := h
      simp only [checkOption, checkObjectOption, clean_append] at hclean
      obtain ⟨⟨⟨⟨-, hcheckPass⟩, hcheckFail⟩, -⟩, -⟩ := hclean
      rw [OptionOf.targets, List.mem_append, Option.mem_toList, Option.mem_toList] at ht
      rcases ht with ht | ht
      · apply (looksUp_of_checkTarget rfl hcheckPass hpass ht).mono
        intro f hf
        simp only [checkOption, checkObjectOption, List.mem_append]
        exact .inl (.inl (.inl (.inr hf)))
      · apply (looksUp_of_checkTarget rfl hcheckFail hfail ht).mono
        intro f hf
        simp only [checkOption, checkObjectOption, List.mem_append]
        exact .inl (.inl (.inr hf))
  | _ => contradiction

/-- The targets of options that stand at their place are looked up; those of presets are not. -/
theorem looksUp_of_options (hpresets : CleanPresets presets)
    (h : Clean (checkOptions presets spot w)) (hos : Content.ReadsOptions presets w os)
    (hplace : w.asText? = none) (ho : o ∈ os) (ht : t ∈ o.targets) :
    LooksUp (checkOptions presets spot w) t := by
  obtain ⟨x, hx, hread⟩ := exists_mem_of_forall₂ (hos.forall₂ hpresets h) ho
  cases w with
  | arr xs =>
      obtain ⟨inner, hsub⟩ := exists_checkOption_subset hx presets spot
      exact (looksUp_of_option (h.mono hsub) hread ht).mono hsub
  | _ => contradiction

/-! ## Nothing dangles -/

theorem exists_stepId_of_looksUp (hobject : payload.value.isObject = true)
    (hwarn : (reportOn payload).warnings = []) (h : LooksUp (findings payload) t) :
    ∃ id ∈ stepIds payload, Text.lower id = Text.lower t := by
  obtain ⟨l, hl, rfl⟩ := h
  rw [reportOn, if_pos hobject] at hwarn
  simp only [List.append_eq_nil_iff, List.filterMap_eq_nil_iff] at hwarn
  have hknown := hwarn.1.2 l (List.mem_filterMap.mpr ⟨_, hl, rfl⟩)
  unfold unknownTarget? at hknown
  split at hknown
  · next hcontains =>
      rw [List.contains_iff_mem, List.mem_map] at hcontains
      exact hcontains
  · contradiction

theorem plainStepId?_eq_some {id : String} (h : plainStepId? r = some id) :
    Payload.isPresetEntry r = false ∧ r.memberOrNull "id" = .str id ∧ isPatchId id = false := by
  unfold plainStepId? at h
  split at h
  · contradiction
  · next hpreset =>
      split at h
      · next name hname =>
          split at h
          · contradiction
          · next hproper =>
              obtain rfl := Option.some.inj h
              simp only [Bool.or_eq_true, not_or, Bool.not_eq_true] at hproper
              exact ⟨by simpa using hpreset, hname, hproper.2⟩
      · contradiction

end Validation

namespace Content

variable {payload : Payload} {source : Option String} {c : Content} {spot : Spot} {t : String}

theorem exists_step_of_stepId (hc : Built payload c) {id : String}
    (hid : id ∈ Validation.stepIds payload) :
    ∃ s ∈ c.steps, s.id = id ∧ isPatchId id = false := by
  obtain ⟨r, hr, hstep⟩ := List.mem_filterMap.mp hid
  obtain ⟨hpreset, hname, hplain⟩ := plainStepId?_eq_some hstep
  have hrecord : r ∈ stepRecords payload := by
    simp [stepRecords, hr, hpreset, isPatchEntry, hname, Json.asText?, hplain]
  obtain ⟨s, hs, hread⟩ := exists_mem_of_forall₂ hc.steps.flip hrecord
  have hsame : s.id = id := Json.str.inj (hread.id.symm.trans hname)
  exact ⟨s, hs, hsame, hplain⟩

theorem candidates_ne_nil {steps : List Step} {s : Step} (hs : s ∈ steps)
    (hplain : isPatchId s.id = false) (hsame : Text.lower s.id = Text.lower t)
    (htrim : Text.trim t = t) : candidates t steps ≠ [] := by
  have hcandidate : s ∈ candidates t steps := by
    simp [candidates, isCandidate, hs, hplain, hsame, htrim]
  exact List.ne_nil_of_mem hcandidate

/-- Each target of an option that stands in the record is the id of a step. -/
def LeadsSomewhere (steps : List Step) (r : Json) (os : List StepOption) : Prop :=
  (r.memberOrNull "options").asText? = none → ∀ o ∈ os, ∀ t ∈ o.targets, Text.trim t = t →
    candidates t steps ≠ []

theorem leadsSomewhere_of_built (hc : Built payload c)
    (hwarn : (reportOn payload).warnings = []) {r : Json} {os : List StepOption}
    (hsub : checkOptions payload.presets spot (r.memberOrNull "options") ⊆ findings payload)
    (hos : ReadsOptions payload.presets (r.memberOrNull "options") os) :
    LeadsSomewhere c.steps r os := by
  intro hplace o ho t ht htrim
  have hpresets := (passesPresets_of_findings hc.passes).clean
  have hlooks := looksUp_of_options hpresets (hc.passes.1.mono hsub) hos hplace ho ht
  obtain ⟨id, hid, hsame⟩ := exists_stepId_of_looksUp hc.isObject hwarn (hlooks.mono hsub)
  obtain ⟨s, hs, rfl, hplain⟩ := exists_step_of_stepId hc hid
  exact candidates_ne_nil hs hplain hsame htrim

/-- Without a warning no target of an option dangles that stands in its record and has no white
space around it. -/
theorem targets_lead_somewhere {report : Report} (h : build source payload = .ok c)
    (hreport : validate payload = .ok report) (hwarn : report.warnings = []) :
    List.Forall₂ (fun r s => LeadsSomewhere c.steps r s.options) (stepRecords payload) c.steps ∧
      List.Forall₂ (fun r p => LeadsSomewhere c.steps r p.options) (patchRecords payload)
        c.patches := by
  have hbuilt := built_of_build h
  obtain rfl := eq_reportOn hreport
  constructor
  · apply forall₂_imp_of_mem hbuilt.steps
    intro r hr s hs
    obtain ⟨id, spot, -, -, -, hsub⟩ := exists_checkPlainStep hbuilt.passes.1 hr
    apply leadsSomewhere_of_built hbuilt hwarn _ hs.options
    · exact Spot.member spot "options"
    · intro f hf
      apply hsub
      simp only [checkPlainStep, List.mem_append]
      exact .inr hf
  · apply forall₂_imp_of_mem hbuilt.patches
    intro r hr p hp
    obtain ⟨spot, key, target, hsub⟩ := exists_checkPatch hbuilt.passes.1 hr
    obtain ⟨t, -, -, -, hcheck⟩ := checkPatch_eq (hbuilt.passes.1.mono hsub)
    apply leadsSomewhere_of_built hbuilt hwarn _ hp.options
    · exact Spot.member spot "options"
    · intro f hf
      apply hsub
      rw [hcheck]
      simp only [List.mem_cons, List.mem_append]
      exact .inr (.inl (.inr hf))

def gateStep (id : String) (options : Json) : Json :=
  .obj [("id", .str id), ("text", .str "A gate."), ("options", options)]

def waiting (target : String) : StepOption where
  label := "Wait"
  passTarget := some target

def waitingGate : Payload :=
  .ofJson (.obj [("steps", .arr [gateStep "Gate" (.arr [.str "Wait::GATE"])])])

theorem targets_lead_somewhere_at_gate :
    let steps : List Step := [{ id := "Gate", text := "A gate.", options := [waiting "GATE"] }]
    build none waitingGate = .ok { steps } ∧ validate waitingGate = .ok {} ∧
      candidates "GATE" steps ≠ [] := by
  intro steps
  have hbuild : build none waitingGate = .ok { steps } := rfl
  have hreport : validate waitingGate = .ok {} := rfl
  refine ⟨hbuild, hreport, ?_⟩
  cases (targets_lead_somewhere hbuild hreport rfl).1 with
  | cons hgate =>
      exact hgate rfl (waiting "GATE") List.mem_cons_self "GATE" List.mem_cons_self rfl

/-- A target in content that was built without a warning, and no step is there. -/
def Dangles (payload : Payload) (t : String) : Prop :=
  validate payload = .ok {} ∧ ∃ c, build none payload = .ok c ∧
    (∃ s ∈ c.steps, ∃ o ∈ s.options, t ∈ o.targets) ∧ candidates t c.steps = []

def presetGate : Payload :=
  .ofJson (.obj [("option_presets", .obj [("common", .arr [.str "Wait::Nowhere"])]),
    ("steps", .arr [gateStep "Gate" (.str "common")])])

def spacedGate : Payload :=
  .ofJson (.obj [("steps", .arr [gateStep " Gate" (.arr [.str "Wait:: Gate"])])])

/-- The target of a preset is never looked up, and white space around a target is looked up with
it. -/
theorem targets_can_dangle : Dangles presetGate "Nowhere" ∧ Dangles spacedGate " Gate" := by
  constructor
  · let steps : List Step := [{ id := "Gate", text := "A gate.", options := [waiting "Nowhere"] }]
    have hbuild : build none presetGate = .ok { steps, presets := presetGate.presets } := rfl
    exact ⟨rfl, _, hbuild, ⟨_, List.mem_cons_self, _, List.mem_cons_self, List.mem_cons_self⟩, rfl⟩
  · let steps : List Step := [{ id := " Gate", text := "A gate.", options := [waiting " Gate"] }]
    have hbuild : build none spacedGate = .ok { steps } := rfl
    exact ⟨rfl, _, hbuild, ⟨_, List.mem_cons_self, _, List.mem_cons_self, List.mem_cons_self⟩, rfl⟩

/-! ## Patches -/

/-- The target that `check` looks up for a record can be the id of a step. -/
structure TargetChecked (check : Nat → Json → List Finding) (r : Json) (t : String) : Prop where
  lookedUp : ∃ i l, .patchTarget l ∈ check i r ∧ l.target = t
  proper : Text.isBlankText t = false
  plain : isPatchId t = false

/-- A patch in the step list is checked by its id, but a target of its own comes before that. -/
structure AttachesById (presets : PairTable) (r : Json) (p : StepPatch) (id : String) : Prop where
  named : r.memberOrNull "id" = .str id
  checked : TargetChecked (checkStepEntry presets) r (patchTarget id)
  attached : p.target = .str (patchTarget id) ↔
    r.memberOrNull "target" = .null ∨ r.memberOrNull "target" = .str (patchTarget id)

structure AttachesByTarget (presets : PairTable) (r : Json) (p : StepPatch) (t : String) :
    Prop where
  target : r.memberOrNull "target" = .str t
  checked : TargetChecked (checkPatchEntry presets) r t
  attached : p.target = .str t

theorem exists_targetChecked {check : Nat → Json → List Finding} {presets : PairTable} {i : Nat}
    {key : String} {r target : Json} (h : Clean (check i r))
    (hcheck : check i r = checkPatch presets spot key target r) :
    ∃ t, target = .str t ∧ TargetChecked check r t := by
  rw [hcheck] at h
  obtain ⟨t, htarget, hproper, hplain, heq⟩ := checkPatch_eq h
  refine ⟨t, htarget, ⟨i, ⟨Spot.member spot key, t⟩, ?_, rfl⟩, hproper, hplain⟩
  rw [hcheck, heq]
  exact List.mem_cons_self

theorem eq_of_targetOf_of_null {r t : Json} {id : String} (h : targetOf r = .ok t)
    (hnull : r.memberOrNull "target" = .null) (hid : r.memberOrNull "id" = .str id) :
    t = .str (patchTarget id) := by
  rw [targetOf, hnull, bind_eq_ok_iff] at h
  obtain ⟨name, hname, h⟩ := h
  obtain rfl := Except.ok.inj h
  rw [← memberOrNull_of_idOf hname, hid, patchTargetOf]

theorem eq_of_targetOf_of_ne_null {r t : Json} (h : targetOf r = .ok t)
    (hgiven : r.memberOrNull "target" ≠ .null) : t = r.memberOrNull "target" := by
  unfold targetOf at h
  split at h
  · next hnull => exact absurd hnull hgiven
  · exact (Except.ok.inj h).symm

theorem exists_attachesById {r : Json} {p : StepPatch} (h : Clean (findings payload))
    (hr : r ∈ patchEntries payload) (hp : ReadsPatch payload.presets r p) :
    ∃ id, AttachesById payload.presets r p id := by
  obtain ⟨i, hsub⟩ := exists_subset_each (List.mem_of_mem_filter hr)
    (checkStepEntry payload.presets)
  have hclean := h.mono (List.Subset.trans hsub (entries_subset_findings payload))
  obtain ⟨id, spot, hid, hcheck⟩ := checkStepEntry_eq_checkPatch hr hclean
  obtain ⟨t, htarget, hchecked⟩ := exists_targetChecked hclean hcheck
  obtain rfl := Json.str.inj htarget
  refine ⟨id, hid, hchecked, ?_⟩
  by_cases hnull : r.memberOrNull "target" = .null
  · have hown := eq_of_targetOf_of_null hp.target hnull hid
    simp [hown, hnull]
  · have hown := eq_of_targetOf_of_ne_null hp.target hnull
    rw [hown]
    simp [hnull]

theorem exists_attachesByTarget {r : Json} {p : StepPatch} (h : Clean (findings payload))
    (hr : r ∈ listedPatches payload) (hp : ReadsPatch payload.presets r p) :
    ∃ t, AttachesByTarget payload.presets r p t := by
  obtain ⟨i, hsub⟩ := exists_subset_each hr (checkPatchEntry payload.presets)
  have hclean := h.mono (List.Subset.trans hsub (listedPatches_subset_findings payload))
  obtain ⟨-, spot, hcheck⟩ := checkPatchEntry_eq_checkPatch hclean
  obtain ⟨t, htarget, hchecked⟩ := exists_targetChecked hclean hcheck
  have hgiven : r.memberOrNull "target" ≠ .null := by simp [htarget]
  exact ⟨t, htarget, hchecked, htarget ▸ eq_of_targetOf_of_ne_null hp.target hgiven⟩

/-- The patches of built content are those of the step list and then the patch records.  Each is
attached to the proper target that was checked for it, those of the step list only if they have no
other target beside their id. -/
theorem patches_attach (h : build source payload = .ok c) :
    ∃ own listed, c.patches = own ++ listed ∧
      List.Forall₂ (fun r p => ∃ id, AttachesById payload.presets r p id)
        (patchEntries payload) own ∧
      List.Forall₂ (fun r p => ∃ t, AttachesByTarget payload.presets r p t)
        (listedPatches payload) listed := by
  have hbuilt := built_of_build h
  have hread := hbuilt.patches
  rw [patchRecords_eq] at hread
  obtain ⟨own, listed, hown, hlisted, hpatches⟩ := exists_append_of_forall₂ hread
  refine ⟨own, listed, hpatches, ?_, ?_⟩
  · apply forall₂_imp_of_mem hown
    intro r hr p hp
    exact exists_attachesById hbuilt.passes.1 hr hp
  · apply forall₂_imp_of_mem hlisted
    intro r hr p hp
    exact exists_attachesByTarget hbuilt.passes.1 hr hp

def gatePatch : Json := .obj [("id", .str "@patch:Gate"), ("target", .str "Gate")]

def hallPatch : Json := .obj [("target", .str "Hall")]

def patchedGate : Payload :=
  .ofJson (.obj [("steps", .arr [gateStep "Gate" .null, gatePatch]), ("patches", .arr [hallPatch])])

theorem patches_attach_at_gate :
    let steps : List Step := [{ id := "Gate", text := "A gate." }]
    let patches : List StepPatch := [{ target := .str "Gate" }, { target := .str "Hall" }]
    build none patchedGate = .ok { steps, patches } ∧
      ∃ own listed, patches = own ++ listed ∧
        List.Forall₂ (fun r p => ∃ id, AttachesById [] r p id) [gatePatch] own ∧
        List.Forall₂ (fun r p => ∃ t, AttachesByTarget [] r p t) [hallPatch] listed := by
  intro steps patches
  have hbuild : build none patchedGate = .ok { steps, patches } := rfl
  exact ⟨hbuild, patches_attach hbuild⟩

/-- A target beside the id takes the patch to another step, or to a patch. -/
theorem patches_can_attach_elsewhere :
    let payload := Payload.ofJson (.obj [("steps", .arr [gateStep "Gate" .null,
      gateStep "Hall" .null, .obj [("id", .str "@patch:Gate"), ("target", .str "Hall")],
      .obj [("id", .str "@patch:Gate"), ("target", .str "@patch:Hall")]])])
    patchTarget "@patch:Gate" = "Gate" ∧ isPatchId "@patch:Hall" = true ∧
      validate payload = .ok {} ∧ ∃ c, build none payload = .ok c ∧
        c.patches.map (·.target) = [.str "Hall", .str "@patch:Hall"] :=
  ⟨rfl, rfl, rfl, _, rfl, rfl⟩

end Content

end Questline
