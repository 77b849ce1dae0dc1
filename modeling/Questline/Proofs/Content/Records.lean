import Questline.Proofs.Content.Building

/-!
# What records hold

Content that was built has one record for each entry of its payload, in order.
A record holds what stands in its entry, and what was found there neither kept
the payload from being loaded nor stopped the validation.
-/

namespace Questline

theorem liftFault_eq_ok_iff {α : Type} {x : Except Fault α} {a : α} :
    liftFault x = .ok a ↔ x = .ok a := by
  cases x <;> simp [liftFault]

theorem liftShape_eq_ok_iff {α : Type} {x : Except ShapeFault α} {a : α} :
    liftShape x = .ok a ↔ x = .ok a := by
  cases x <;> simp [liftShape]

theorem liftContent_eq_ok_iff {α : Type} {x : Except Fault α} {a : α} :
    liftContent x = .ok a ↔ x = .ok a := by
  cases x <;> simp [liftContent]

theorem memberOrNull_of_idOf {v id : Json} (h : idOf v = .ok id) : v.memberOrNull "id" = id := by
  unfold idOf at h
  split at h
  · cases hmember : v.member? "id" with
    | none => simp [hmember] at h
    | some w =>
        simp only [hmember, Except.ok.injEq] at h
        rw [Json.memberOrNull, hmember, h]
        rfl
  · contradiction

theorem eq_str_of_asText? {w : Json} {s : String} (h : w.asText? = some s) : w = .str s := by
  cases w with
  | str t => exact congrArg Json.str (Option.some.inj h)
  | _ => contradiction

/-! ## Reading -/

theorem OptionOf.convert?_eq_some {α β : Type} {f : α → Option β} {a : OptionOf α} {o : OptionOf β}
    (h : a.convert? f = some o) :
    o.tags = a.tags ∧ o.skills = a.skills ∧ o.dc = a.dc ∧
      Questline.convert? f a.passTarget = some o.passTarget ∧
      Questline.convert? f a.failTarget = some o.failTarget := by
  simp only [OptionOf.convert?, Option.bind_eq_bind, Option.bind_eq_some_iff, Option.pure_def,
    Option.some.injEq] at h
  obtain ⟨pass, hpass, fail, hfail, rfl⟩ := h
  exact ⟨rfl, rfl, rfl, hpass, hfail⟩

namespace Content

variable {v w : Json} {presets : PairTable} {source : Option String} {s : Step} {p : StepPatch}

def ReadsOption (x : Json) (o : StepOption) : Prop :=
  ∃ a, optionOf x = .ok a ∧ a.convert? Json.asText? = some o

def ReadsOptions (presets : PairTable) (w : Json) (os : List StepOption) : Prop :=
  ∃ as, optionsOf presets w = .ok as ∧ as.mapM (OptionOf.convert? Json.asText?) = some os

structure ReadsStep (presets : PairTable) (v : Json) (s : Step) : Prop where
  id : v.memberOrNull "id" = .str s.id
  tags : s.tags = textsOf (v.memberOrNull "tags")
  vars : declarationsOf (v.memberOrNull "vars") = .ok s.vars
  options : ReadsOptions presets (v.memberOrNull "options") s.options

structure ReadsPatch (presets : PairTable) (v : Json) (p : StepPatch) : Prop where
  target : targetOf v = .ok p.target
  tags : p.tags = textsOf (v.memberOrNull "tags")
  vars : declarationsOf (v.memberOrNull "vars") = .ok p.vars
  options : ReadsOptions presets (v.memberOrNull "options") p.options

theorem convert?_of_settle_step {a : AuthoredStep} (h : a.settle = .ok s) :
    a.convert? Json.asText? = some s := by
  unfold AuthoredStep.settle at h
  split at h
  · next hs => rw [hs, Except.ok.inj h]
  · contradiction

theorem convert?_of_settle_patch {a : AuthoredPatch} (h : a.settle = .ok p) :
    a.convert? Json.asText? = some p := by
  unfold AuthoredPatch.settle at h
  split at h
  · next hs => rw [hs, Except.ok.inj h]
  · contradiction

theorem readStep_eq_ok (h : readStep presets source v = .ok s) : ReadsStep presets v s := by
  unfold readStep stepOf at h
  simp only [bind_eq_ok_iff, liftFault_eq_ok_iff, pure, Except.pure, Except.ok.injEq] at h
  obtain ⟨a, ⟨id, hid, vars, hvars, os, hos, rfl⟩, hsettle⟩ := h
  have hconvert := convert?_of_settle_step hsettle
  simp only [StepOf.convert?, Option.bind_eq_bind, Option.bind_eq_some_iff, Option.pure_def,
    Option.some.injEq] at hconvert
  obtain ⟨name, hname, text, -, options, hoptions, log, -, rfl⟩ := hconvert
  constructor
  · rw [memberOrNull_of_idOf hid, eq_str_of_asText? hname]
  · rfl
  · exact hvars
  · exact ⟨os, hos, hoptions⟩

theorem readPatch_eq_ok (h : readPatch presets source v = .ok p) : ReadsPatch presets v p := by
  unfold readPatch patchOf at h
  rw [bind_eq_ok_iff] at h
  obtain ⟨a, ha, hsettle⟩ := h
  split at ha
  · contradiction
  · simp only [bind_eq_ok_iff, liftFault_eq_ok_iff, pure, Except.pure, Except.ok.injEq] at ha
    obtain ⟨target, htarget, os, hos, vars, hvars, rfl⟩ := ha
    have hconvert := convert?_of_settle_patch hsettle
    simp only [PatchOf.convert?, Option.bind_eq_bind, Option.bind_eq_some_iff, Option.pure_def,
      Option.some.injEq] at hconvert
    obtain ⟨text, -, options, hoptions, rfl⟩ := hconvert
    constructor
    · exact htarget
    · rfl
    · exact hvars
    · exact ⟨os, hos, hoptions⟩

end Content

/-! ## Findings that let a record through -/

namespace Validation

variable {fs gs : List Finding} {spot : Spot} {p : Problem} {presets : PairTable} {v : Json}

/-- No finding is an error, and none stops the validation. -/
def Passes (fs : List Finding) : Prop := Clean fs ∧ GoesOn fs

theorem Passes.mono (h : Passes gs) (hsub : fs ⊆ gs) : Passes fs :=
  ⟨h.1.mono hsub, fun hstop => h.2 (hsub hstop)⟩

theorem passes_append : Passes (fs ++ gs) ↔ Passes fs ∧ Passes gs := by
  rw [Passes, clean_append, goesOn_append]
  exact and_and_and_comm

theorem passes_patchTarget {l : Link} : Passes (.patchTarget l :: fs) ↔ Passes fs := by
  rw [Passes, clean_patchTarget, goesOn_patchTarget]
  rfl

theorem passes_withoutTargets : Passes (Finding.withoutTargets fs) ↔ Passes fs := by
  rw [Passes, clean_withoutTargets]
  apply and_congr_right
  intro _
  simp [GoesOn, Finding.withoutTargets, Finding.optionTarget?]

/-- A target that is let through is read as it stands, and is looked up. -/
theorem checkTarget_cases {target : Option String} (hp : p.isWarning = false)
    (h : Clean (checkTarget spot p v)) (hread : convert? Json.asText? v.given? = some target) :
    v = .null ∧ target = none ∨ ∃ t, v = .str t ∧ target = some t ∧ Text.isBlankText t = false ∧
      checkTarget spot p v = [.optionTarget ⟨spot, t⟩] := by
  unfold checkTarget at h ⊢
  split at h
  · next hnull =>
      cases v with
      | null => exact .inl ⟨rfl, (Option.some.inj hread).symm⟩
      | _ => contradiction
  · split at h
    · next hproper =>
        obtain ⟨t, rfl, hblank⟩ := exists_text_of_isProperText hproper
        have hgiven : t ≠ "" := by
          rintro rfl
          contradiction
        refine .inr ⟨t, rfl, ?_, hblank, ?_⟩
        · have hsame : some (some t) = some target := by
            simpa [Json.given?, Json.isGiven, hgiven, convert?, Json.asText?] using hread
          exact (Option.some.inj hsame).symm
        · simp [Json.isNull, hproper, Json.asText?]
    · exact absurd h (not_clean_problem hp)

def PassesPresets (presets : PairTable) : Prop :=
  ∀ entry ∈ presets, Passes (checkPreset entry.1 entry.2)

theorem PassesPresets.clean (h : PassesPresets presets) : CleanPresets presets :=
  fun entry hentry => (h entry hentry).1

theorem exists_checkOption_subset {xs : List Json} {x : Json} (hx : x ∈ xs) (presets : PairTable)
    (spot : Spot) : ∃ inner, checkOption inner x ⊆ checkOptions presets spot (.arr xs) := by
  obtain ⟨i, hsub⟩ := exists_subset_each hx fun i x =>
    checkOption ⟨(Spot.element spot i).place, spot.context ++ ", option " ++ toString (i + 1)⟩ x
  exact ⟨_, hsub⟩

/-- Each option at a place that is let through is let through itself. -/
theorem exists_passes_of_mem_authoredOptions {x : Json} (hpresets : PassesPresets presets)
    (h : Passes (checkOptions presets spot v)) (hx : x ∈ authoredOptions presets v) :
    ∃ spot, Passes (checkOption spot x) := by
  cases v with
  | arr xs =>
      obtain ⟨inner, hsub⟩ := exists_checkOption_subset hx presets spot
      exact ⟨inner, h.mono hsub⟩
  | str name =>
      obtain ⟨k, xs, hk, -, hoptions⟩ := exists_preset_of_name hpresets.clean h.1
      have hpreset : Passes (checkPreset k (.arr xs)) := hpresets _ hk
      rw [checkPreset, passes_withoutTargets] at hpreset
      obtain ⟨i, hsub⟩ := exists_subset_each (hoptions ▸ hx) _
      exact ⟨_, hpreset.mono hsub⟩
  | _ => contradiction

end Validation

/-! ## Built content -/

namespace Content

open Validation

variable {v w : Json} {presets : PairTable} {payload : Payload} {source : Option String}
  {c : Content} {spot : Spot}

/-- Options at a place that is let through are read one by one, in order. -/
theorem ReadsOptions.forall₂ {os : List StepOption} (hpresets : CleanPresets presets)
    (hclean : Clean (checkOptions presets spot w)) (h : ReadsOptions presets w os) :
    List.Forall₂ ReadsOption (authoredOptions presets w) os := by
  obtain ⟨as, has, hos⟩ := h
  rw [optionsOf_eq hpresets hclean] at has
  have hread := forall₂_of_mapM_eq_ok has
  have hconvert := forall₂_of_mapM_eq_some hos
  clear has hos
  generalize authoredOptions presets w = xs at hread ⊢
  induction hread generalizing os with
  | nil =>
      cases hconvert
      exact .nil
  | cons hx hxs ih =>
      cases hconvert with
      | cons ho hrest => exact .cons ⟨_, hx, ho⟩ (ih hrest)

def patchEntries (payload : Payload) : List Json :=
  payload.entries.filter fun v => !Payload.isPresetEntry v && isPatchEntry v

def listedPatches (payload : Payload) : List Json :=
  ((payload.value.memberOrNull "patches").asList?).getD []

theorem patchRecords_eq (payload : Payload) :
    patchRecords payload = patchEntries payload ++ listedPatches payload := rfl

/-- What is known of a payload and of the content that was built from it. -/
structure Built (payload : Payload) (c : Content) : Prop where
  isObject : payload.value.isObject = true
  passes : Passes (findings payload)
  steps : List.Forall₂ (ReadsStep payload.presets) (stepRecords payload) c.steps
  patches : List.Forall₂ (ReadsPatch payload.presets) (patchRecords payload) c.patches

theorem eq_reportOn {report : Report} (h : validate payload = .ok report) :
    report = reportOn payload := by
  obtain hstop | ⟨hreport, -⟩ := validate_eq payload
  · rw [hstop] at h
    contradiction
  · exact Except.ok.inj (h.symm.trans hreport)

theorem passes_of_validate {report : Report} (h : validate payload = .ok report)
    (herrors : report.errors = []) :
    payload.value.isObject = true ∧ Passes (findings payload) := by
  obtain rfl := eq_reportOn h
  obtain ⟨hobject, hclean⟩ := clean_findings herrors
  obtain hstop | ⟨-, hgoesOn⟩ := validate_eq payload
  · rw [hstop] at h
    contradiction
  · exact ⟨hobject, hclean, hgoesOn hobject⟩

theorem reads_of_assemble (h : assemble source payload = .ok c) :
    List.Forall₂ (fun v s => readStep payload.presets source v = .ok s) (stepRecords payload)
        c.steps ∧
      List.Forall₂ (fun v p => readPatch payload.presets source v = .ok p) (patchRecords payload)
        c.patches := by
  simp only [assemble, bind_eq_ok_iff] at h
  obtain ⟨steps, hsteps, patches, hpatches, config, -, h⟩ := h
  split at h
  · contradiction
  · obtain rfl := Except.ok.inj h
    constructor
    · exact (forall₂_of_mapM_eq_ok hsteps).imp fun _ _ => liftShape_eq_ok_iff.mp
    · exact (forall₂_of_mapM_eq_ok hpatches).imp fun _ _ => liftShape_eq_ok_iff.mp

theorem assemble_of_build (h : build source payload = .ok c) :
    payload.value.isObject = true ∧ Passes (findings payload) ∧
      assemble source payload = .ok c := by
  unfold build at h
  rw [bind_eq_ok_iff] at h
  obtain ⟨report, hreport, h⟩ := h
  rw [liftContent_eq_ok_iff] at hreport
  split at h
  · next herrors =>
      obtain ⟨hobject, hpasses⟩ := passes_of_validate hreport (List.isEmpty_iff.mp herrors)
      exact ⟨hobject, hpasses, h⟩
  · contradiction

theorem built_of_build (h : build source payload = .ok c) : Built payload c := by
  obtain ⟨hobject, hpasses, hassemble⟩ := assemble_of_build h
  obtain ⟨hsteps, hpatches⟩ := reads_of_assemble hassemble
  exact ⟨hobject, hpasses, hsteps.imp fun _ _ => readStep_eq_ok,
    hpatches.imp fun _ _ => readPatch_eq_ok⟩

end Content

/-! ## Where the findings of a record stand -/

namespace Validation

variable {payload : Payload} {presets : PairTable} {spot : Spot} {r : Json}

theorem entries_subset_findings (payload : Payload) :
    each payload.entries (checkStepEntry payload.presets) ⊆ findings payload := by
  intro f hf
  simp only [findings, List.mem_append]
  exact .inl (.inl (.inr hf))

theorem listedPatches_subset_findings (payload : Payload) :
    each (Content.listedPatches payload) (checkPatchEntry payload.presets) ⊆ findings payload := by
  intro f hf
  simp only [findings, List.mem_append]
  exact .inr hf

theorem passesPresets_of_findings (h : Passes (findings payload)) :
    PassesPresets payload.presets := by
  intro entry hentry
  apply h.mono
  intro f hf
  simp only [findings, List.mem_append, List.mem_flatMap]
  exact .inl (.inl (.inl (.inr ⟨entry, hentry, hf⟩)))

theorem exists_checkPlainStep (h : Clean (findings payload))
    (hr : r ∈ Content.stepRecords payload) :
    ∃ id spot, r.memberOrNull "id" = .str id ∧ Text.isBlankText id = false ∧
      isPatchId id = false ∧ checkPlainStep payload.presets spot r ⊆ findings payload := by
  simp only [Content.stepRecords, List.mem_filter, Bool.and_eq_true, Bool.not_eq_true'] at hr
  obtain ⟨hmem, hpreset, hplain⟩ := hr
  obtain ⟨i, hsub⟩ := exists_subset_each hmem (checkStepEntry payload.presets)
  have hsub := List.Subset.trans hsub (entries_subset_findings payload)
  obtain ⟨-, id, spot, hid, hblank, hcheck⟩ := exists_id_of_checkStepEntry hpreset (h.mono hsub)
  simp only [Content.isPatchEntry, hid, Json.asText?, Option.any_some] at hplain
  rw [hcheck, hplain] at hsub
  exact ⟨id, spot, hid, hblank, hplain, hsub⟩

/-- A patch in the step list is checked by its id. -/
theorem checkStepEntry_eq_checkPatch {i : Nat} (hr : r ∈ Content.patchEntries payload)
    (h : Clean (checkStepEntry presets i r)) :
    ∃ id spot, r.memberOrNull "id" = .str id ∧
      checkStepEntry presets i r = checkPatch presets spot "id" (.str (patchTarget id)) r := by
  simp only [Content.patchEntries, List.mem_filter, Bool.and_eq_true, Bool.not_eq_true'] at hr
  obtain ⟨-, hpreset, hpatch⟩ := hr
  obtain ⟨-, id, spot, hid, -, hcheck⟩ := exists_id_of_checkStepEntry hpreset h
  simp only [Content.isPatchEntry, hid, Json.asText?, Option.any_some] at hpatch
  rw [if_pos hpatch] at hcheck
  exact ⟨id, spot, hid, hcheck⟩

theorem exists_checkPatch (h : Clean (findings payload)) (hr : r ∈ Content.patchRecords payload) :
    ∃ spot key target, checkPatch payload.presets spot key target r ⊆ findings payload := by
  rw [Content.patchRecords_eq, List.mem_append] at hr
  rcases hr with hr | hr
  · obtain ⟨i, hsub⟩ := exists_subset_each (List.mem_of_mem_filter hr)
      (checkStepEntry payload.presets)
    have hsub := List.Subset.trans hsub (entries_subset_findings payload)
    obtain ⟨id, spot, -, hcheck⟩ := checkStepEntry_eq_checkPatch hr (h.mono hsub)
    rw [hcheck] at hsub
    exact ⟨spot, _, _, hsub⟩
  · obtain ⟨i, hsub⟩ := exists_subset_each hr (checkPatchEntry payload.presets)
    have hsub := List.Subset.trans hsub (listedPatches_subset_findings payload)
    obtain ⟨-, spot, hcheck⟩ := checkPatchEntry_eq_checkPatch (h.mono hsub)
    rw [hcheck] at hsub
    exact ⟨spot, _, _, hsub⟩

end Validation

end Questline
