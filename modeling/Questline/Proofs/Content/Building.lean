import Questline.Proofs.Config.Numbers
import Questline.Proofs.Content.Checks
import Questline.Proofs.Content.Tokens

/-!
# Building content

A payload without errors becomes content, unless a number of its configuration
is infinite or a patch in the step list has a target that cannot be looked up.
-/

namespace Questline

namespace Validation

variable {payload : Payload} {presets : PairTable} {i : Nat} {v : Json}

theorem clean_findings (h : (reportOn payload).errors = []) :
    payload.value.isObject = true ∧ Clean (findings payload) := by
  unfold reportOn at h
  split at h
  · next hobject =>
      have herrors : ((findings payload).filterMap Finding.issue?).filter
          (fun i => !i.problem.isWarning) = [] := h
      rw [List.filter_eq_nil_iff] at herrors
      refine ⟨hobject, fun i hi => ?_⟩
      have hnot := herrors i (List.mem_filterMap.mpr ⟨_, hi, rfl⟩)
      simpa using hnot
  · cases h

theorem errors_eq_nil_of_clean (hobject : payload.value.isObject = true)
    (h : Clean (findings payload)) : (reportOn payload).errors = [] := by
  rw [reportOn, if_pos hobject]
  rw [List.filter_eq_nil_iff]
  intro i hi
  obtain ⟨f, hf, hfi⟩ := List.mem_filterMap.mp hi
  cases f with
  | issue j =>
      obtain rfl := Option.some.inj hfi
      simpa using h j hf
  | _ => cases hfi

/-- What a patch is attached to can be told as soon as it has an id, or a target of its own. -/
theorem exists_target (hobject : v.isObject = true)
    (h : (∃ id, v.memberOrNull "id" = .str id) ∨ (v.memberOrNull "target").isNull = false) :
    ∃ t, targetOf v = .ok t ∧ t.isContainer = (v.memberOrNull "target").isContainer := by
  unfold targetOf
  split
  · next hnull =>
      rw [hnull] at h ⊢
      obtain ⟨id, hid⟩ | h := h
      · refine ⟨.str (patchTarget id), ?_, rfl⟩
        simp [idOf_eq_ok hobject hid rfl, patchTargetOf, bind, Except.bind, pure, Except.pure]
      · contradiction
  · exact ⟨_, rfl, rfl⟩

/-- An entry of the step list that is let through has an id and is checked as its kind. -/
theorem exists_id_of_checkStepEntry (hpreset : Payload.isPresetEntry v = false)
    (h : Clean (checkStepEntry presets i v)) :
    v.isObject = true ∧ ∃ id spot, v.memberOrNull "id" = .str id ∧ Text.isBlankText id = false ∧
      checkStepEntry presets i v =
        if isPatchId id then checkPatch presets spot "id" (.str (patchTarget id)) v
        else checkPlainStep presets spot v := by
  simp only [checkStepEntry, hpreset, Bool.false_eq_true, if_false] at h ⊢
  split at h
  · exact absurd h (not_clean_problem rfl)
  · next hobject =>
      refine ⟨by simpa using hobject, ?_⟩
      split at h
      · exact absurd h (not_clean_problem rfl)
      · next hproper =>
          have hproper : isProperText (v.memberOrNull "id") = true := by simpa using hproper
          obtain ⟨id, hid, hblank⟩ := exists_text_of_isProperText hproper
          have hname : (v.memberOrNull "id").asText?.getD "" = id := by rw [hid]; rfl
          have hobject : v.isObject = true := by simpa using hobject
          simp only [hname, hobject, hproper, Bool.not_true, Bool.false_eq_true, if_false]
          split
          · next hpatch => exact ⟨id, _, hid, hblank, by rw [if_pos hpatch]⟩
          · next hpatch => exact ⟨id, _, hid, hblank, by rw [if_neg hpatch]⟩

/-- A patch record that is let through is checked by its target. -/
theorem checkPatchEntry_eq_checkPatch (h : Clean (checkPatchEntry presets i v)) :
    v.isObject = true ∧ ∃ spot, checkPatchEntry presets i v =
      checkPatch presets spot "target" (v.memberOrNull "target") v := by
  unfold checkPatchEntry at h ⊢
  split at h
  · exact absurd h (not_clean_problem rfl)
  · next hobject =>
      rw [if_neg hobject]
      exact ⟨by simpa using hobject, _, rfl⟩

end Validation

namespace Content

open Validation

variable {payload : Payload} {presets : PairTable} {i : Nat} {v : Json}

/-- The record has a target of its own that cannot be looked up. -/
def isLost (v : Json) : Bool := (v.memberOrNull "target").isContainer

def hasLostTarget (payload : Payload) : Bool := (patchRecords payload).any isLost

def hasInfiniteNumber (payload : Payload) : Bool :=
  (Config.numbersOf (payload.value.memberOrNull "config")).any Json.isInfinite

theorem exists_patch_of_record (source : Option String)
    (hpresets : CleanPresets presets)
    (h : Clean (checkPatchEntry presets i v)) :
    ∃ patch, liftShape (readPatch presets source v) = .ok patch ∧
      patch.target.isContainer = isLost v := by
  obtain ⟨hobject, spot, hcheck⟩ := checkPatchEntry_eq_checkPatch h
  rw [hcheck] at h
  obtain ⟨id, hid, -⟩ := checkPatch_eq h
  have htarget : (v.memberOrNull "target").isNull = false := by
    rw [hid]
    rfl
  obtain ⟨t, ht, hcontainer⟩ := exists_target hobject (.inr htarget)
  obtain ⟨patch, hpatch, hpt⟩ := exists_patch source hpresets hobject ht h
  exact ⟨patch, by rw [hpatch]; rfl, by rw [hpt, hcontainer]; rfl⟩

theorem exists_patch_of_entry (source : Option String)
    (hpresets : CleanPresets presets)
    (hpreset : Payload.isPresetEntry v = false) (hpatch : isPatchEntry v = true)
    (h : Clean (checkStepEntry presets i v)) :
    ∃ patch, liftShape (readPatch presets source v) = .ok patch ∧
      patch.target.isContainer = isLost v := by
  obtain ⟨hobject, id, spot, hid, -, hcheck⟩ := exists_id_of_checkStepEntry hpreset h
  have hpatchId : isPatchId id = true := by simpa [isPatchEntry, hid, Json.asText?] using hpatch
  rw [hcheck, if_pos hpatchId] at h
  obtain ⟨t, ht, hcontainer⟩ := exists_target hobject (.inl ⟨id, hid⟩)
  obtain ⟨patch, hpatch, hpt⟩ := exists_patch source hpresets hobject ht h
  exact ⟨patch, by rw [hpatch]; rfl, by rw [hpt, hcontainer]; rfl⟩

theorem exists_step_of_entry (source : Option String)
    (hpresets : CleanPresets presets)
    (hpreset : Payload.isPresetEntry v = false) (hpatch : isPatchEntry v = false)
    (h : Clean (checkStepEntry presets i v)) :
    ∃ step, liftShape (readStep presets source v) = .ok step := by
  obtain ⟨hobject, id, spot, hid, -, hcheck⟩ := exists_id_of_checkStepEntry hpreset h
  have hplain : isPatchId id = false := by simpa [isPatchEntry, hid, Json.asText?] using hpatch
  rw [hcheck, hplain] at h
  obtain ⟨step, hstep⟩ := exists_step source hpresets hobject hid h
  exact ⟨step, by rw [hstep]; rfl⟩

/-- What is let through can be read: all steps, and all patches with their targets. -/
theorem exists_records (source : Option String) (h : Clean (findings payload)) :
    (∃ steps, (stepRecords payload).mapM
      (fun v => liftShape (readStep payload.presets source v)) = .ok steps) ∧
    ∃ patches, (patchRecords payload).mapM
        (fun v => liftShape (readPatch payload.presets source v)) = .ok patches ∧
      (patches.any fun p => p.target.isContainer) = hasLostTarget payload := by
  simp only [findings, clean_append] at h
  obtain ⟨⟨⟨⟨⟨⟨-, -⟩, -⟩, hpresets⟩, hentries⟩, -⟩, hpatches⟩ := h
  have hpresets : CleanPresets payload.presets := clean_flatMap.mp hpresets
  constructor
  · refine exists_mapM_eq_ok_iff.mpr fun v hv => ?_
    simp only [stepRecords, List.mem_filter, Bool.and_eq_true, Bool.not_eq_true'] at hv
    obtain ⟨hmem, hpreset, hpatch⟩ := hv
    obtain ⟨i, hi⟩ := exists_clean_of_each hentries hmem
    exact exists_step_of_entry source hpresets hpreset hpatch hi
  · have hread : ∀ v ∈ patchRecords payload,
        ∃ patch, liftShape (readPatch payload.presets source v) = .ok patch ∧
          patch.target.isContainer = isLost v := by
      intro v hv
      -- patches of the step list first, then the patch records
      rcases List.mem_append.mp hv with hv | hv
      · simp only [List.mem_filter, Bool.and_eq_true, Bool.not_eq_true'] at hv
        obtain ⟨hmem, hpreset, hpatch⟩ := hv
        obtain ⟨i, hi⟩ := exists_clean_of_each hentries hmem
        exact exists_patch_of_entry source hpresets hpreset hpatch hi
      · obtain ⟨i, hi⟩ := exists_clean_of_each hpatches hv
        exact exists_patch_of_record source hpresets hi
    obtain ⟨patches, hpatches, hmap⟩ := exists_mapM_eq_ok_map_eq hread
    refine ⟨patches, hpatches, ?_⟩
    have hany := congrArg (List.any · id) hmap
    simpa only [hasLostTarget, List.any_map, Function.id_comp] using hany

/-- What becomes of a payload that is let through. -/
inductive AssembleExit (payload : Payload) : Except ContentFault Content → Prop where
  | infinite (hnumbers : hasInfiniteNumber payload = true) :
    AssembleExit payload (.error (.fault .infiniteNumber))
  | lostTarget (hnumbers : hasInfiniteNumber payload = false)
      (htargets : hasLostTarget payload = true) :
    AssembleExit payload (.error (.fault .wrongKind))
  | built {c : Content} (hnumbers : hasInfiniteNumber payload = false)
      (htargets : hasLostTarget payload = false) :
    AssembleExit payload (.ok c)

theorem assemble_exit (source : Option String) (h : Clean (findings payload)) :
    AssembleExit payload (assemble source payload) := by
  obtain ⟨⟨steps, hsteps⟩, patches, hpatches, htargets⟩ := exists_records source h
  have hconfig := Config.ofJson_demands (payload.value.memberOrNull "config")
  simp only [assemble, hsteps, hpatches, bind, Except.bind]
  cases hnumbers : hasInfiniteNumber payload with
  | true =>
      rw [hconfig.fails hnumbers]
      exact .infinite hnumbers
  | false =>
      obtain ⟨config, hconfig⟩ := hconfig.succeeds hnumbers
      rw [hconfig]
      cases hlost : hasLostTarget payload with
      | true =>
          simp only [liftContent, htargets, hlost, if_true]
          exact .lostTarget hnumbers hlost
      | false =>
          simp only [liftContent, htargets, hlost, Bool.false_eq_true, if_false]
          exact .built hnumbers hlost

/-- What becomes of any payload. -/
inductive BuildExit (payload : Payload) : Except ContentFault Content → Prop where
  | stopped (hvalidate : validate payload = .error .unreadableNumber) :
    BuildExit payload (.error (.fault .unreadableNumber))
  | refused {report : Report} (hvalidate : validate payload = .ok report)
      (herrors : report.errors ≠ []) :
    BuildExit payload (.error (.invalid report.errorTexts))
  | assembled {report : Report} {built : Except ContentFault Content}
      (hvalidate : validate payload = .ok report) (herrors : report.errors = [])
      (e : AssembleExit payload built) :
    BuildExit payload built

theorem validate_eq (payload : Payload) :
    validate payload = .error .unreadableNumber ∨
      validate payload = .ok (reportOn payload) ∧
        (payload.value.isObject = true → GoesOn (findings payload)) := by
  unfold validate
  split
  · exact .inl rfl
  · next hstop =>
      refine .inr ⟨rfl, fun hobject hmem => hstop ?_⟩
      rw [hobject, Bool.true_and, List.any_eq_true]
      exact ⟨_, hmem, rfl⟩

theorem build_exit (source : Option String) (payload : Payload) :
    BuildExit payload (build source payload) := by
  unfold build
  obtain hvalidate | ⟨hvalidate, -⟩ := validate_eq payload
  · rw [hvalidate]
    exact .stopped hvalidate
  · rw [hvalidate]
    cases herrors : (reportOn payload).errors with
    | nil =>
        have hclean : Clean (findings payload) := (clean_findings herrors).2
        simp only [liftContent, herrors, List.isEmpty_nil, if_true, bind, Except.bind]
        exact .assembled hvalidate herrors (assemble_exit source hclean)
    | cons issue issues =>
        simp only [liftContent, herrors, List.isEmpty_cons, Bool.false_eq_true, if_false, bind,
          Except.bind]
        exact .refused hvalidate (by simp [herrors])

/-! ## Building by findings -/

section

variable (source : Option String) (hobject : payload.value.isObject = true)

include hobject in
theorem build_of_not_goesOn (h : ¬ GoesOn (findings payload)) :
    build source payload = .error (.fault .unreadableNumber) := by
  obtain hvalidate | ⟨-, hgoes⟩ := validate_eq payload
  · rw [build, hvalidate]
    rfl
  · exact absurd (hgoes hobject) h

theorem build_of_not_clean (hgoes : GoesOn (findings payload))
    (h : ¬ Clean (findings payload)) :
    build source payload = .error (.invalid (reportOn payload).errorTexts) := by
  rw [build, validate_of_goesOn hgoes]
  cases herrors : (reportOn payload).errors with
  | nil => exact absurd (clean_findings herrors).2 h
  | cons issue issues =>
      simp only [liftContent, herrors, List.isEmpty_cons, Bool.false_eq_true, if_false, bind,
        Except.bind]
      rfl

include hobject in
theorem build_of_clean (hgoes : GoesOn (findings payload)) (h : Clean (findings payload)) :
    build source payload = assemble source payload := by
  rw [build, validate_of_goesOn hgoes]
  simp [liftContent, errors_eq_nil_of_clean hobject h, bind, Except.bind]

end

/-- Content is built from exactly those values that are validated without an error, have no
infinite number in their configuration, and no patch whose target cannot be looked up.  Errors
refuse a value, all of them and nothing else; and beyond that there are only three ways to fail. -/
theorem build_succeeds_iff (source : Option String) (v : Json) :
    ((∃ c, build source (.ofJson v) = .ok c) ↔
      (∃ report, validate (.ofJson v) = .ok report ∧ report.errors = []) ∧
        hasInfiniteNumber (.ofJson v) = false ∧ hasLostTarget (.ofJson v) = false) ∧
    (∀ report, validate (.ofJson v) = .ok report → report.errors ≠ [] →
      build source (.ofJson v) = .error (.invalid report.errorTexts)) ∧
    ∀ f, build source (.ofJson v) = .error f →
      (∃ report, validate (.ofJson v) = .ok report ∧ report.errors ≠ [] ∧
        f = .invalid report.errorTexts) ∨
      (validate (.ofJson v) = .error .unreadableNumber ∧ ¬ v.HasReadableTexts ∧
        f = .fault .unreadableNumber) ∨
      (∃ report, validate (.ofJson v) = .ok report ∧ report.errors = [] ∧
        (hasInfiniteNumber (.ofJson v) = true ∧ f = .fault .infiniteNumber ∨
          hasInfiniteNumber (.ofJson v) = false ∧ hasLostTarget (.ofJson v) = true ∧
            f = .fault .wrongKind)) := by
  have hexit := build_exit source (.ofJson v)
  generalize build source (.ofJson v) = built at hexit ⊢
  cases hexit with
  | stopped hvalidate =>
      have hlong : ¬ v.HasReadableTexts := by
        intro h
        rw [validate_eq_ok (hasReadableTokens_ofJson h)] at hvalidate
        cases hvalidate
      simp [hvalidate, hlong]
  | refused hvalidate herrors => simp_all
  | assembled hvalidate herrors e =>
      cases e with
      | infinite hnumbers => simp_all
      | lostTarget hnumbers htargets => simp_all
      | built hnumbers htargets => simp_all

/-- An infinite number of sides for the die is no error, but no content either. -/
theorem build_can_fail_without_errors :
    let payload := Payload.ofJson (.obj [("steps", .arr []),
      ("config", .obj [("dieSides", .float (.infinite false))])])
    (∃ report, validate payload = .ok report ∧ report.errors = []) ∧
      build none payload = .error (.fault .infiniteNumber) :=
  ⟨⟨_, rfl, rfl⟩, rfl⟩

end Content

end Questline
