import Questline.Content.Build
import Questline.Proofs.Attempt
import Questline.Proofs.Table

/-!
# What the checks rule out

Findings without an error let a record through.  Every record that is let
through can be read, its texts are texts, and only the target of a patch may be
something else.
-/

namespace Questline

namespace Validation

variable {fs gs : List Finding} {spot : Spot} {p : Problem} {presets : PairTable} {v : Json}

/-- No finding is an error. -/
def Clean (fs : List Finding) : Prop :=
  ∀ i, Finding.issue i ∈ fs → i.problem.isWarning = true

theorem clean_append : Clean (fs ++ gs) ↔ Clean fs ∧ Clean gs := by
  simp [Clean, or_imp, forall_and]

theorem clean_patchTarget {l : Link} : Clean (.patchTarget l :: fs) ↔ Clean fs := by
  simp [Clean]

theorem clean_problem : Clean (problem spot p) ↔ p.isWarning = true := by
  simp [Clean, problem]

theorem not_clean_problem (hp : p.isWarning = false) : ¬ Clean (problem spot p) := by
  rw [clean_problem, hp]
  exact Bool.false_ne_true

theorem clean_require {holds : Bool} (hp : p.isWarning = false) :
    Clean (require holds spot p) ↔ holds = true := by
  unfold require
  cases holds
  · simp [clean_problem, hp]
  · simp [Clean]

theorem clean_flatMap {α : Type} {xs : List α} {check : α → List Finding} :
    Clean (xs.flatMap check) ↔ ∀ x ∈ xs, Clean (check x) := by
  simp only [Clean, List.mem_flatMap]
  constructor
  · intro h x hx i hi
    exact h i ⟨x, hx, hi⟩
  · rintro h i ⟨x, hx, hi⟩
    exact h x hx i hi

theorem Clean.mono (h : Clean gs) (hsub : fs ⊆ gs) : Clean fs := fun i hi => h i (hsub hi)

theorem exists_subset_each {xs : List Json} {x : Json} (hx : x ∈ xs)
    (check : Nat → Json → List Finding) : ∃ i, check i x ⊆ each xs check := by
  obtain ⟨i, hi⟩ := List.mem_iff_getElem?.mp hx
  refine ⟨i, ?_⟩
  intro f hf
  exact List.mem_flatMap.mpr ⟨(x, i), List.mk_mem_zipIdx_iff_getElem?.mpr hi, hf⟩

theorem exists_clean_of_each {xs : List Json} {check : Nat → Json → List Finding}
    (h : Clean (each xs check)) {x : Json} (hx : x ∈ xs) : ∃ i, Clean (check i x) := by
  obtain ⟨i, hsub⟩ := exists_subset_each hx check
  exact ⟨i, h.mono hsub⟩

theorem clean_withoutTargets : Clean (Finding.withoutTargets fs) ↔ Clean fs := by
  simp [Clean, Finding.withoutTargets, Finding.optionTarget?]

/-! ## Values -/

theorem exists_text_of_isSome (h : v.asText?.isSome = true) : ∃ s, v = .str s := by
  cases v with
  | str s => exact ⟨s, rfl⟩
  | _ => contradiction

theorem exists_text_of_isProperText (h : isProperText v = true) :
    ∃ s, v = .str s ∧ Text.isBlankText s = false := by
  cases v with
  | str s => exact ⟨s, rfl, by simpa [isProperText, Json.asText?] using h⟩
  | _ => contradiction

theorem exists_convert?_given? (h : v.isNull = true ∨ ∃ s, v = .str s) :
    ∃ given, convert? Json.asText? v.given? = some given := by
  rcases h with h | ⟨s, rfl⟩
  · cases v with
    | null => exact ⟨none, rfl⟩
    | _ => contradiction
  · unfold Json.given?
    split
    · exact ⟨some s, rfl⟩
    · exact ⟨none, rfl⟩

/-! ## Options -/

theorem exists_convert?_of_checkTarget (hp : p.isWarning = false)
    (h : Clean (checkTarget spot p v)) :
    ∃ given, convert? Json.asText? v.given? = some given := by
  refine exists_convert?_given? ?_
  unfold checkTarget at h
  split at h
  · next hnull => exact .inl hnull
  · split at h
    · next hproper =>
        obtain ⟨s, hs, -⟩ := exists_text_of_isProperText hproper
        exact .inr ⟨s, hs⟩
    · exact absurd h (not_clean_problem hp)

/-- An option that is let through can be read, and its targets are texts. -/
theorem exists_option (h : Clean (checkOption spot v)) :
    ∃ o settled, optionOf v = .ok o ∧ o.convert? Json.asText? = some settled := by
  cases v with
  | str s =>
      refine ⟨shorthandOption s, ?_⟩
      simp only [optionOf, true_and]
      unfold shorthandOption
      split
      · exact ⟨_, rfl⟩
      · split <;> exact ⟨_, rfl⟩
  | obj ms =>
      simp only [checkOption, checkObjectOption, clean_append] at h
      obtain ⟨⟨⟨⟨⟨-, -⟩, hpass⟩, hfail⟩, -⟩, -⟩ := h
      obtain ⟨pass, hpass⟩ := exists_convert?_of_checkTarget rfl hpass
      obtain ⟨fail, hfail⟩ := exists_convert?_of_checkTarget rfl hfail
      have hsettled :
          ∃ settled, (objectOption (.obj ms)).convert? Json.asText? = some settled := by
        simp [OptionOf.convert?, objectOption, hpass, hfail]
      obtain ⟨settled, hsettled⟩ := hsettled
      exact ⟨objectOption (.obj ms), settled, rfl, hsettled⟩
  | _ => exact absurd h (not_clean_problem rfl)

theorem exists_mapM_option {xs : List Json}
    (h : ∀ x ∈ xs, ∃ o settled, optionOf x = .ok o ∧ o.convert? Json.asText? = some settled) :
    ∃ os settled, xs.mapM optionOf = .ok os ∧
      os.mapM (OptionOf.convert? Json.asText?) = some settled := by
  induction xs with
  | nil => exact ⟨[], [], rfl, rfl⟩
  | cons x xs ih =>
      rw [List.forall_mem_cons] at h
      obtain ⟨o, settled, ho, hsettled⟩ := h.1
      obtain ⟨os, more, hos, hmore⟩ := ih h.2
      refine ⟨o :: os, settled :: more, ?_, ?_⟩
      · simp [List.mapM_cons, ho, hos, bind, Except.bind, pure, Except.pure]
      · simp [List.mapM_cons, hsettled, hmore]

theorem exists_preset {name w : Json} (h : Clean (checkPreset name w)) :
    ∃ xs, w = .arr xs ∧
      ∀ x ∈ xs, ∃ o settled, optionOf x = .ok o ∧ o.convert? Json.asText? = some settled := by
  cases w with
  | arr xs =>
      refine ⟨xs, rfl, fun x hx => ?_⟩
      obtain ⟨i, hi⟩ := exists_clean_of_each (clean_withoutTargets.mp h) hx
      exact exists_option hi
  | _ => exact absurd h (not_clean_problem rfl)

theorem exists_mem_of_get? {name w : Json} (h : presets.get? name = some w) :
    ∃ k, (k, w) ∈ presets := by
  induction presets with
  | nil => cases h
  | cons entry presets ih =>
      obtain ⟨k, x⟩ := entry
      simp only [PairTable.get?] at h
      split at h
      · obtain rfl := Option.some.inj h
        exact ⟨k, List.mem_cons_self⟩
      · obtain ⟨k, hk⟩ := ih h
        exact ⟨k, List.mem_cons_of_mem _ hk⟩

def CleanPresets (presets : PairTable) : Prop :=
  ∀ entry ∈ presets, Clean (checkPreset entry.1 entry.2)

/-- The options that stand at a place: written there, or in the preset that is named there. -/
def authoredOptions (presets : PairTable) : Json → List Json
  | .arr xs => xs
  | .str name => ((presets.get? (.str name)).bind Json.asList?).getD []
  | _ => []

/-- A name that is let through is that of a preset with a list of options. -/
theorem exists_preset_of_name {name : String} (hpresets : CleanPresets presets)
    (h : Clean (checkOptions presets spot (.str name))) :
    ∃ k xs, (k, .arr xs) ∈ presets ∧ presets.get? (.str name) = some (.arr xs) ∧
      authoredOptions presets (.str name) = xs := by
  rw [checkOptions, clean_require rfl, Option.isSome_iff_exists] at h
  obtain ⟨w, hw⟩ := h
  obtain ⟨k, hk⟩ := exists_mem_of_get? hw
  obtain ⟨xs, rfl, -⟩ := exists_preset (hpresets _ hk)
  refine ⟨k, xs, hk, hw, ?_⟩
  simp [authoredOptions, hw, Json.asList?]

/-- An empty preset does not count as given, and the empty list stands in for it. -/
theorem optionsOf_name {name : String} {xs : List Json}
    (h : presets.get? (.str name) = some (.arr xs)) :
    optionsOf presets (.str name) = xs.mapM optionOf := by
  unfold optionsOf
  cases xs with
  | nil => simp [h, Json.isNull, Json.given?, Json.isGiven, Json.items?]
  | cons x xs => simp [h, Json.isNull, Json.given?, Json.isGiven, Json.items?]

/-- Options that are let through are read one after the other. -/
theorem optionsOf_eq (hpresets : CleanPresets presets) (h : Clean (checkOptions presets spot v)) :
    optionsOf presets v = (authoredOptions presets v).mapM optionOf := by
  cases v with
  | null => rfl
  | str name =>
      obtain ⟨k, xs, -, hget, hoptions⟩ := exists_preset_of_name hpresets h
      rw [hoptions]
      exact optionsOf_name hget
  | arr xs => rfl
  | _ => exact absurd h (not_clean_problem rfl)

/-- Options that are let through can be read, and so can those of the preset they name. -/
theorem exists_options (hpresets : CleanPresets presets)
    (h : Clean (checkOptions presets spot v)) :
    ∃ os settled, optionsOf presets v = .ok os ∧
      os.mapM (OptionOf.convert? Json.asText?) = some settled := by
  rw [optionsOf_eq hpresets h]
  apply exists_mapM_option
  intro x hx
  cases v with
  | str name =>
      obtain ⟨k, xs, hk, -, hoptions⟩ := exists_preset_of_name hpresets h
      obtain ⟨ys, hys, hread⟩ := exists_preset (hpresets _ hk)
      obtain rfl := Json.arr.inj hys
      exact hread x (hoptions ▸ hx)
  | arr xs =>
      rw [checkOptions] at h
      obtain ⟨i, hi⟩ := exists_clean_of_each h hx
      exact exists_option hi
  | _ => contradiction

/-! ## Variables and text changes -/

theorem exists_choices {name : String} (h : Clean (checkVar spot name v)) :
    ∃ choices, choicesOf v = .ok choices := by
  unfold checkVar at h
  split at h
  · exact absurd h (not_clean_problem rfl)
  · cases v with
    | null => exact ⟨_, rfl⟩
    | str s => exact ⟨_, rfl⟩
    | arr xs => exact ⟨_, rfl⟩
    | _ => exact absurd h (not_clean_problem rfl)

theorem exists_declarations (h : Clean (checkVars spot v)) :
    ∃ vars, declarationsOf v = .ok vars := by
  cases v with
  | null => exact ⟨[], rfl⟩
  | obj ms =>
      refine exists_mapM_eq_ok_iff.mpr fun entry hentry => ?_
      obtain ⟨choices, hchoices⟩ := exists_choices (clean_flatMap.mp h entry hentry)
      exact ⟨(entry.1, choices), by simp [hchoices, bind, Except.bind, pure, Except.pure]⟩
  | _ => exact absurd h (not_clean_problem rfl)

theorem exists_textChange (h : Clean (checkTextChange spot v)) :
    ∃ settled, (textChangeOf v).convert? Json.asText? = some settled := by
  have hmember : ∀ key, textChangeKeys.contains key = true →
      ∃ given, convert? Json.asText? ((v.member? key).filter (!·.isNull)) = some given := by
    intro key hkey
    cases hx : v.member? key with
    | none => exact ⟨none, rfl⟩
    | some x =>
        cases v with
        | obj ms =>
            have hclean := clean_flatMap.mp h (key, x) (Table.mem_of_get? hx)
            simp only [hkey, if_true] at hclean
            obtain ⟨s, rfl⟩ := exists_text_of_isSome ((clean_require rfl).mp hclean)
            exact ⟨some s, rfl⟩
        | _ => cases hx
  obtain ⟨before, hbefore⟩ := hmember "prepend" rfl
  obtain ⟨after, hafter⟩ := hmember "append" rfl
  obtain ⟨instead, hinstead⟩ := hmember "replace" rfl
  refine ⟨⟨before, after, instead⟩, ?_⟩
  simp only [textChangeOf, TextChangeOf.convert?, hbefore, hafter, hinstead]
  rfl

/-! ## Records -/

variable {source : Option String} {name : String}

theorem idOf_eq_ok {id : Json} (hobject : v.isObject = true) (hid : v.memberOrNull "id" = id)
    (hgiven : id.isNull = false) : idOf v = .ok id := by
  unfold Json.memberOrNull at hid
  cases hmember : v.member? "id" with
  | none =>
      rw [hmember] at hid
      rw [← hid] at hgiven
      contradiction
  | some w =>
      rw [hmember] at hid
      simp only [idOf, hobject, hmember, if_true]
      exact congrArg _ hid

/-- A step that is let through can be read. -/
theorem exists_step (source : Option String)
    (hpresets : CleanPresets presets)
    (hobject : v.isObject = true) (hid : v.memberOrNull "id" = .str name)
    (h : Clean (checkPlainStep presets spot v)) :
    ∃ step, Content.readStep presets source v = .ok step := by
  simp only [checkPlainStep, clean_append] at h
  obtain ⟨⟨⟨⟨htext, hlog⟩, -⟩, hvars⟩, hoptions⟩ := h
  obtain ⟨text, htext⟩ := exists_text_of_isSome ((clean_require rfl).mp htext)
  obtain ⟨vars, hvars⟩ := exists_declarations hvars
  obtain ⟨os, settled, hos, hsettled⟩ := exists_options hpresets hoptions
  have hlog : ∃ log, convert? Json.asText? (v.memberOrNull "log").given? = some log := by
    refine exists_convert?_given? ?_
    have hlog := (clean_require rfl).mp hlog
    rw [Bool.or_eq_true] at hlog
    exact hlog.imp id exists_text_of_isSome
  obtain ⟨log, hlog⟩ := hlog
  have htext : ((v.memberOrNull "text").given?).getD (.str "") = .str text := by
    rw [htext]
    by_cases hempty : text = "" <;> simp [Json.given?, Json.isGiven, hempty]
  simp [Content.readStep, stepOf, idOf_eq_ok hobject hid rfl, hvars, liftFault, hos, htext,
    AuthoredStep.settle, StepOf.convert?, Json.asText?, hsettled, hlog, bind, Except.bind, pure,
    Except.pure]

/-- A patch that is let through has a proper target, which is looked up. -/
theorem checkPatch_eq {key : String} {target : Json}
    (h : Clean (checkPatch presets spot key target v)) :
    ∃ t, target = .str t ∧ Text.isBlankText t = false ∧ isPatchId t = false ∧
      checkPatch presets spot key target v = .patchTarget ⟨Spot.member spot key, t⟩ ::
        (checkTags true (Spot.member spot "tags") (v.memberOrNull "tags") ++
          checkTextChange (Spot.member spot "text") (v.memberOrNull "text") ++
          checkOptions presets (Spot.member spot "options") (v.memberOrNull "options") ++
          checkVars (Spot.member spot "vars") (v.memberOrNull "vars")) := by
  unfold checkPatch at h ⊢
  dsimp only at h ⊢
  split at h
  · exact absurd h (not_clean_problem rfl)
  · next hproper =>
      have hproper : isProperText target = true := by simpa using hproper
      obtain ⟨t, rfl, hblank⟩ := exists_text_of_isProperText hproper
      split at h
      · exact absurd h (not_clean_problem rfl)
      · next hplain =>
          have hplain : isPatchId t = false := by simpa [Json.asText?] using hplain
          refine ⟨t, rfl, hblank, hplain, ?_⟩
          simp [hproper, Json.asText?, hplain]

/-- A patch that is let through can be read, whatever its target is. -/
theorem exists_patch (source : Option String) {key : String} {target t : Json}
    (hpresets : CleanPresets presets)
    (hobject : v.isObject = true) (htarget : targetOf v = .ok t)
    (h : Clean (checkPatch presets spot key target v)) :
    ∃ patch, Content.readPatch presets source v = .ok patch ∧ patch.target = t := by
  obtain ⟨id, -, -, -, hcheck⟩ := checkPatch_eq h
  rw [hcheck] at h
  simp only [clean_patchTarget, clean_append] at h
  obtain ⟨⟨⟨-, htext⟩, hoptions⟩, hvars⟩ := h
  obtain ⟨text, htext⟩ := exists_textChange htext
  obtain ⟨os, settled, hos, hsettled⟩ := exists_options hpresets hoptions
  obtain ⟨vars, hvars⟩ := exists_declarations hvars
  simp [Content.readPatch, patchOf, hobject, htarget, hos, hvars, liftFault,
    AuthoredPatch.settle, PatchOf.convert?, htext, hsettled, bind, Except.bind, pure,
    Except.pure]

end Validation

end Questline
