import Questline.Proofs.Content.Records
import Questline.SkillCheck

/-!
# Sound content

Validation and reading are two traversals of the same payload, written apart.
What the first lets through the second turns into sound records: tokens that
name a tag, skill checks that lead somewhere when they fail, and variables with
every choice as it was written.
-/

namespace Questline

open Validation

/-- A choice as an author writes it. -/
def Choice.authored : Choice → Json
  | .text s => .str s
  | .fields fs => .obj (Table.mapValues .str fs)

inductive KeepsChoices : Json → Option (List Choice) → Prop
  | cleared : KeepsChoices .null none
  | single (s : String) : KeepsChoices (.str s) (some [.text s])
  | listed (choices : List Choice) :
      KeepsChoices (.arr (choices.map Choice.authored)) (some choices)

/-- Every variable is declared as it was written, in order. -/
def KeepsVars (w : Json) (vars : Declarations) : Prop :=
  List.Forall₂ (fun m d => d.1 = m.1 ∧ KeepsChoices m.2 d.2) (w.asObject?.getD []) vars

structure SoundToken (allowBase : Bool) (token : String) : Prop where
  readable : Tag.read token = .ok (Tag.ofToken token)
  named : (Tag.ofToken token).name ≠ ""
  placed : allowBase = false → (Tag.ofToken token).isBaseCondition = false

structure SoundTags (allowBase : Bool) (w : Json) (tokens : List String) : Prop where
  kept : w = .null ∧ tokens = [] ∨ w = .arr (tokens.map .str)
  sound : ∀ token ∈ tokens, SoundToken allowBase token

/-- A skill check has a difficulty, and a target to go to when the roll fails. -/
structure SoundOption (x : Json) (o : StepOption) : Prop where
  tags : SoundTags false (x.memberOrNull "tags") o.tags
  check : o.isSkillCheck = true → ∃ dc fail, o.dc = some dc ∧ o.failTarget = some fail ∧
    Text.isBlankText fail = false ∧
    ∀ c : SkillCheck, c.success = false → nextTarget o c = some fail

structure SoundStep (presets : PairTable) (r : Json) (s : Step) : Prop where
  id : r.memberOrNull "id" = .str s.id
  proper : Text.isBlankText s.id = false
  plain : isPatchId s.id = false
  tags : SoundTags false (r.memberOrNull "tags") s.tags
  options : List.Forall₂ SoundOption (authoredOptions presets (r.memberOrNull "options")) s.options
  vars : KeepsVars (r.memberOrNull "vars") s.vars

structure SoundPatch (presets : PairTable) (r : Json) (p : StepPatch) : Prop where
  tags : SoundTags true (r.memberOrNull "tags") p.tags
  options : List.Forall₂ SoundOption (authoredOptions presets (r.memberOrNull "options")) p.options
  vars : KeepsVars (r.memberOrNull "vars") p.vars

variable {spot : Spot} {presets : PairTable} {w x : Json}

/-! ## Tags -/

theorem soundToken_of_passes {allowBase : Bool} {token : String}
    (h : Passes (checkTag allowBase spot token)) : SoundToken allowBase token := by
  unfold checkTag at h
  split at h
  · next hreadable =>
      dsimp only at h
      split at h
      · exact absurd h.1 (not_clean_problem rfl)
      · next hname =>
          split at h
          · exact absurd h.1 (not_clean_problem rfl)
          · next hplace =>
              constructor
              · rw [Tag.read, if_pos hreadable]
              · intro hempty
                exact hname (by rw [hempty]; rfl)
              · rintro rfl
                simpa using hplace
  · exact absurd (List.mem_singleton.mpr rfl) h.2

theorem map_str_textsOf {xs : List Json} (h : isTextList (.arr xs) = true) :
    (textsOf (.arr xs)).map .str = xs := by
  have hall : ∀ x ∈ xs, x.asText?.isSome = true := List.all_eq_true.mp h
  clear h
  induction xs with
  | nil => rfl
  | cons x xs ih =>
      rw [List.forall_mem_cons] at hall
      obtain ⟨s, rfl⟩ := exists_text_of_isSome hall.1
      exact congrArg (Json.str s :: ·) (ih hall.2)

theorem soundTags_of_passes {allowBase : Bool} (h : Passes (checkTags allowBase spot w)) :
    SoundTags allowBase w (textsOf w) := by
  unfold checkTags at h
  split at h
  · next hnull =>
      cases w with
      | null => exact ⟨.inl ⟨rfl, rfl⟩, nofun⟩
      | _ => contradiction
  · split at h
    · next hlist =>
        cases w with
        | arr xs =>
            have hkept := (map_str_textsOf hlist).symm
            refine ⟨.inr (congrArg Json.arr hkept), ?_⟩
            intro token htoken
            have hmem : Json.str token ∈ xs := hkept ▸ List.mem_map_of_mem htoken
            obtain ⟨i, hsub⟩ := exists_subset_each hmem fun i x =>
              checkTag allowBase (Spot.element spot i) (x.asText?.getD "")
            exact soundToken_of_passes (h.mono hsub)
        | _ => contradiction
    · exact absurd h.1 (not_clean_problem rfl)

/-! ## Variables -/

theorem mapValues_str_describe {ms : Table Json} (h : ∀ m ∈ ms, m.2.asText?.isSome = true) :
    Table.mapValues Json.str (Table.mapValues Json.describe ms) = ms := by
  induction ms with
  | nil => rfl
  | cons m ms ih =>
      obtain ⟨key, x⟩ := m
      rw [List.forall_mem_cons] at h
      obtain ⟨s, rfl⟩ := exists_text_of_isSome h.1
      exact congrArg ((key, Json.str s) :: ·) (ih h.2)

theorem exists_choiceOf (h : isChoice x = true) :
    ∃ choice, choiceOf x = some choice ∧ choice.authored = x := by
  cases x with
  | str s => exact ⟨.text s, rfl, rfl⟩
  | obj ms =>
      have htexts : ∀ m ∈ ms, m.2.asText?.isSome = true := List.all_eq_true.mp h
      refine ⟨.fields (Table.mapValues Json.describe ms), rfl, ?_⟩
      rw [Choice.authored, mapValues_str_describe htexts]
  | _ => contradiction

theorem map_authored_choices {xs : List Json} (h : ∀ x ∈ xs, isChoice x = true) :
    (xs.filterMap choiceOf).map Choice.authored = xs := by
  induction xs with
  | nil => rfl
  | cons x xs ih =>
      rw [List.forall_mem_cons] at h
      obtain ⟨choice, hchoice, hsame⟩ := exists_choiceOf h.1
      rw [List.filterMap_cons_some hchoice, List.map_cons, hsame, ih h.2]

theorem keepsChoices_of_clean {name : String} {choices : Option (List Choice)}
    (h : Clean (checkVar spot name w)) (hchoices : choicesOf w = .ok choices) :
    KeepsChoices w choices := by
  unfold checkVar at h
  split at h
  · exact absurd h (not_clean_problem rfl)
  · cases w with
    | null =>
        obtain rfl := Except.ok.inj hchoices
        exact .cleared
    | str s =>
        obtain rfl := Except.ok.inj hchoices
        exact .single s
    | arr xs =>
        obtain rfl := Except.ok.inj hchoices
        have hall : ∀ x ∈ xs, isChoice x = true := by
          intro x hx
          obtain ⟨i, hi⟩ := exists_clean_of_each h hx
          exact (clean_require rfl).mp hi
        have hkept := KeepsChoices.listed (xs.filterMap choiceOf)
        rwa [map_authored_choices hall] at hkept
    | _ => exact absurd h (not_clean_problem rfl)

theorem keepsVars_of_clean {vars : Declarations} (h : Clean (checkVars spot w))
    (hvars : declarationsOf w = .ok vars) : KeepsVars w vars := by
  apply forall₂_imp_of_mem (forall₂_of_mapM_eq_ok hvars)
  intro m hm d hd
  have hclean : Clean (checkVar spot m.1 m.2) := by
    cases w with
    | obj ms => exact clean_flatMap.mp h m hm
    | _ => contradiction
  rw [bind_eq_ok_iff] at hd
  obtain ⟨choices, hchoices, hd⟩ := hd
  obtain rfl := Except.ok.inj hd
  exact ⟨rfl, keepsChoices_of_clean hclean hchoices⟩

/-! ## Options -/

theorem shorthandOption_plain (s : String) :
    (shorthandOption s).tags = [] ∧ (shorthandOption s).skills = [] := by
  unfold shorthandOption
  split <;> exact ⟨rfl, rfl⟩

theorem not_isSkillCheck_of_skills {o : StepOption} (h : o.skills = []) :
    ¬ o.isSkillCheck = true := by
  simp [OptionOf.isSkillCheck, h]

theorem skills_eq_nil_of_isNull (h : (x.memberOrNull "skill").isNull = true) :
    (objectOption x).skills = [] := by
  simp only [objectOption]
  cases hskill : x.memberOrNull "skill" with
  | null => rfl
  | _ => simp [hskill, Json.isNull] at h

/-- Where a skill is named, a target for when the roll fails is asked for. -/
theorem isNull_fail_of_checkSkill (h : Clean (checkSkill spot x))
    (hskill : (x.memberOrNull "skill").isNull = false) :
    (x.memberOrNull "fail").isNull = false := by
  unfold checkSkill at h
  rw [hskill] at h
  simp only [Bool.false_eq_true, if_false, clean_append] at h
  obtain ⟨-, hfail⟩ := h
  simpa using (clean_require rfl).mp hfail

theorem soundOption_of_passes {o : StepOption} (h : Passes (checkOption spot x))
    (ho : Content.ReadsOption x o) : SoundOption x o := by
  obtain ⟨a, ha, hconvert⟩ := ho
  obtain ⟨htags, hskills, -, -, hfail⟩ := OptionOf.convert?_eq_some hconvert
  cases x with
  | str s =>
      obtain rfl := Except.ok.inj ha
      obtain ⟨hnoTags, hnoSkills⟩ := shorthandOption_plain s
      constructor
      · rw [htags, hnoTags]
        exact ⟨.inl ⟨rfl, rfl⟩, nofun⟩
      · intro hcheck
        exact absurd hcheck (not_isSkillCheck_of_skills (hskills.trans hnoSkills))
  | obj ms =>
      obtain rfl := Except.ok.inj ha
      simp only [checkOption, checkObjectOption, passes_append] at h
      obtain ⟨⟨⟨⟨⟨-, hcheckTags⟩, -⟩, hcheckFail⟩, hcheckSkill⟩, -⟩ := h
      constructor
      · rw [htags]
        exact soundTags_of_passes hcheckTags
      · intro hcheck
        obtain ⟨dc, hdc⟩ := Option.isSome_iff_exists.mp (Bool.and_eq_true_iff.mp hcheck).2
        cases hskill : ((Json.obj ms).memberOrNull "skill").isNull with
        | true =>
            have hnoSkills := hskills.trans (skills_eq_nil_of_isNull hskill)
            exact absurd hcheck (not_isSkillCheck_of_skills hnoSkills)
        | false =>
            have hgiven := isNull_fail_of_checkSkill hcheckSkill.1 hskill
            obtain ⟨hnull, -⟩ | ⟨fail, -, hsome, hblank, -⟩ :=
              checkTarget_cases rfl hcheckFail.1 hfail
            · rw [hnull] at hgiven
              contradiction
            · refine ⟨dc, fail, hdc, hsome, hblank, ?_⟩
              intro c hc
              simp [nextTarget, hc, hsome]
  | _ => contradiction

/-! ## Records -/

variable {payload : Payload} {spot : Spot} {os : List StepOption}

theorem soundOptions_of_passes (hpresets : PassesPresets presets)
    (h : Passes (checkOptions presets spot w)) (hos : Content.ReadsOptions presets w os) :
    List.Forall₂ SoundOption (authoredOptions presets w) os := by
  apply forall₂_imp_of_mem (hos.forall₂ hpresets.clean h.1)
  intro x hx o ho
  obtain ⟨inner, hinner⟩ := exists_passes_of_mem_authoredOptions hpresets h hx
  exact soundOption_of_passes hinner ho

theorem soundStep_of_passes {r : Json} {s : Step} (h : Passes (findings payload))
    (hr : r ∈ Content.stepRecords payload) (hs : Content.ReadsStep payload.presets r s) :
    SoundStep payload.presets r s := by
  obtain ⟨id, spot, hid, hblank, hplain, hsub⟩ := exists_checkPlainStep h.1 hr
  obtain rfl : id = s.id := Json.str.inj (hid.symm.trans hs.id)
  have hstep := h.mono hsub
  simp only [checkPlainStep, passes_append] at hstep
  obtain ⟨⟨⟨-, htags⟩, hvars⟩, hoptions⟩ := hstep
  constructor
  · exact hid
  · exact hblank
  · exact hplain
  · rw [hs.tags]
    exact soundTags_of_passes htags
  · exact soundOptions_of_passes (passesPresets_of_findings h) hoptions hs.options
  · exact keepsVars_of_clean hvars.1 hs.vars

theorem soundPatch_of_passes {r target : Json} {key : String} {p : StepPatch}
    (hpresets : PassesPresets presets) (h : Passes (checkPatch presets spot key target r))
    (hp : Content.ReadsPatch presets r p) : SoundPatch presets r p := by
  obtain ⟨t, -, -, -, hcheck⟩ := checkPatch_eq h.1
  rw [hcheck, passes_patchTarget] at h
  simp only [passes_append] at h
  obtain ⟨⟨⟨htags, -⟩, hoptions⟩, hvars⟩ := h
  constructor
  · rw [hp.tags]
    exact soundTags_of_passes htags
  · exact soundOptions_of_passes hpresets hoptions hp.options
  · exact keepsVars_of_clean hvars.1 hp.vars

namespace Content

theorem exists_soundStep {c : Content} {s : Step} (hc : Built payload c) (hs : s ∈ c.steps) :
    ∃ r, SoundStep payload.presets r s := by
  obtain ⟨r, hr, hread⟩ := exists_mem_of_forall₂ hc.steps hs
  exact ⟨r, soundStep_of_passes hc.passes hr hread⟩

theorem exists_soundPatch {c : Content} {p : StepPatch} (hc : Built payload c)
    (hp : p ∈ c.patches) : ∃ r, SoundPatch payload.presets r p := by
  obtain ⟨r, hr, hread⟩ := exists_mem_of_forall₂ hc.patches hp
  obtain ⟨spot, key, target, hsub⟩ := exists_checkPatch hc.passes.1 hr
  exact ⟨r, soundPatch_of_passes (passesPresets_of_findings hc.passes) (hc.passes.mono hsub) hread⟩

/-- Content that was built is sound, record by record: no step has the id of a patch or a blank
one, every token names a tag, conditions on the step under a patch stand on patches only, every
skill check has a difficulty and a target for when it fails, and every variable has the choices
that were written for it. -/
theorem build_sound {source : Option String} {c : Content} (h : build source payload = .ok c) :
    List.Forall₂ (SoundStep payload.presets) (stepRecords payload) c.steps ∧
      List.Forall₂ (SoundPatch payload.presets) (patchRecords payload) c.patches := by
  have hbuilt := built_of_build h
  have hpresets := passesPresets_of_findings hbuilt.passes
  constructor
  · apply forall₂_imp_of_mem hbuilt.steps
    intro r hr s hs
    exact soundStep_of_passes hbuilt.passes hr hs
  · apply forall₂_imp_of_mem hbuilt.patches
    intro r hr p hp
    obtain ⟨spot, key, target, hsub⟩ := exists_checkPatch hbuilt.passes.1 hr
    exact soundPatch_of_passes hpresets (hbuilt.passes.mono hsub) hp

/-- A duel in shorthand: a preset, a single choice, and a patch in the step list. -/
def duel : Json :=
  .obj [("steps", .arr [
    .obj [("option_presets", .obj [("fight", .arr [.obj [("label", .str "Strike"),
      ("tags", .arr [.str "-stamina"]), ("skill", .str "might"), ("dc", .int 7),
      ("pass", .str "Crown"), ("fail", .str "Grave")]])])],
    .obj [("id", .str "Duel"), ("text", .str "En garde."), ("tags", .arr [.str "@stamina>1"]),
      ("vars", .obj [("foe", .str "Knight"), ("wound", .null)]), ("options", .str "fight")],
    .obj [("id", .str "@patch:Duel"), ("tags", .arr [.str "^night"]),
      ("options", .arr [.str "Flee"])]])]

def duelStep : Step where
  id := "Duel"
  tags := ["@stamina>1"]
  text := "En garde."
  vars := [("foe", some [.text "Knight"]), ("wound", none)]
  options := [{
    label := "Strike"
    tags := ["-stamina"]
    passTarget := some "Crown"
    failTarget := some "Grave"
    skills := ["might"]
    dc := some 7 }]

def duelPatch : StepPatch where
  target := .str "Duel"
  tags := ["^night"]
  options := [{ label := "Flee" }]

def duelContent : Content where
  steps := [duelStep]
  patches := [duelPatch]
  presets := (Payload.ofJson duel).presets

theorem build_sound_at_duel :
    let payload := Payload.ofJson duel
    build none payload = .ok duelContent ∧
      List.Forall₂ (SoundStep payload.presets) (stepRecords payload) [duelStep] ∧
      List.Forall₂ (SoundPatch payload.presets) (patchRecords payload) [duelPatch] := by
  intro payload
  have hbuild : build none payload = .ok duelContent := rfl
  exact ⟨hbuild, build_sound hbuild⟩

end Content

end Questline
