import Questline.Proofs.Content.Gathering
import Questline.Proofs.Content.Placing
import Questline.Proofs.Content.Records

/-!
# Patch steps as patch records

A step with the id of a patch becomes a patch record with those of its members
that count as given.  The record is checked and read as the step is, if what
does not count as given is nothing at all, and the step has no other target.
-/

namespace Questline

open Merge Validation

/-- A value that is given, or nothing in one of two ways: null, or empty. -/
def IsKept (empty v : Json) : Prop := v.isGiven = true ∨ v = .null ∨ v = empty

variable {v e : Json} {spot : Spot} {id : String}

theorem isKept_arr (xs : List Json) : IsKept (.arr []) (.arr xs) := by
  cases xs with
  | nil => exact .inr (.inr rfl)
  | cons x xs => exact .inl rfl

theorem isKept_obj (ms : Table Json) : IsKept (.obj []) (.obj ms) := by
  cases ms with
  | nil => exact .inr (.inr rfl)
  | cons m ms => exact .inl rfl

theorem getD_given? (h : IsKept e v) {α : Type} (read : Json → α) (hread : read .null = read e) :
    read (v.given?.getD .null) = read v := by
  unfold Json.given?
  split
  · rfl
  · next hgiven =>
      rcases h with h | rfl | rfl
      · exact absurd h hgiven
      · rfl
      · exact hread

theorem isKept_of_checkTags {allowBase : Bool} (h : Clean (checkTags allowBase spot v)) :
    IsKept (.arr []) v := by
  cases v with
  | null => exact .inr (.inl rfl)
  | arr xs => exact isKept_arr xs
  | _ => exact absurd h (not_clean_problem rfl)

theorem isKept_of_checkTextChange (h : Clean (checkTextChange spot v)) : IsKept (.obj []) v := by
  cases v with
  | null => exact .inr (.inl rfl)
  | obj ms => exact isKept_obj ms
  | _ => exact absurd h (not_clean_problem rfl)

theorem isKept_of_checkVars (h : Clean (checkVars spot v)) : IsKept (.obj []) v := by
  cases v with
  | null => exact .inr (.inl rfl)
  | obj ms => exact isKept_obj ms
  | _ => exact absurd h (not_clean_problem rfl)

/-- A patch step that means the same as a patch record. -/
structure KeepsPatch (v : Json) : Prop where
  target : v.memberOrNull "target" = .null ∨
    v.memberOrNull "target" = patchTargetOf (v.memberOrNull "id")
  tags : IsKept (.arr []) (v.memberOrNull "tags")
  text : IsKept (.obj []) (v.memberOrNull "text")
  options : IsKept (.arr []) (v.memberOrNull "options")
  vars : IsKept (.obj []) (v.memberOrNull "vars")

theorem memberOrNull_recordOf {key : String} (hkey : key ∈ patchMembers) :
    (recordOf v).memberOrNull key = (v.memberOrNull key).given?.getD .null := by
  have hkept : Table.get? key (keptMembers v) = (v.member? key).bind Json.given? := by
    rw [keptMembers, Table.get?_filterMap, if_pos hkey]
  have hne : "target" ≠ key := by
    rintro rfl
    exact absurd hkey (by decide)
  have hrecord : (recordOf v).member? key = (v.member? key).bind Json.given? := by
    rw [← hkept]
    exact if_neg hne
  unfold Json.memberOrNull
  rw [hrecord]
  cases v.member? key <;> rfl

/-- What is read at a member of a patch step is read at that of its record. -/
theorem read_recordOf {key : String} (hkey : key ∈ patchMembers)
    (h : IsKept e (v.memberOrNull key)) {α : Type} (read : Json → α) (hread : read .null = read e) :
    read ((recordOf v).memberOrNull key) = read (v.memberOrNull key) := by
  rw [memberOrNull_recordOf hkey]
  exact getD_given? h read hread

/-! ## What does not count as given -/

theorem textsOf_of_not_isGiven (h : v.isGiven = false) : textsOf v = textsOf .null := by
  cases v with
  | arr xs =>
      obtain rfl : xs = [] := by simpa [Json.isGiven] using h
      rfl
  | _ => rfl

theorem textChangeOf_of_not_isGiven (h : v.isGiven = false) :
    textChangeOf v = textChangeOf .null := by
  cases v with
  | obj ms =>
      obtain rfl : ms = [] := by simpa [Json.isGiven] using h
      rfl
  | _ => rfl

theorem declarationsOf_of_not_isGiven (h : v.isGiven = false) :
    declarationsOf v = declarationsOf .null := by
  cases v with
  | obj ms =>
      obtain rfl : ms = [] := by simpa [Json.isGiven] using h
      rfl
  | _ => rfl

/-- False, or a zero: nothing that counts as given, and yet nothing to go through. -/
def IsVoid (v : Json) : Prop := v.isGiven = false ∧ v ≠ .null ∧ v.items? = none

/-- Options are passed on as they are, or they do not count as given.  Then they are none, unless
they name a preset or are no options. -/
theorem optionsOf_given?_cases (presets : PairTable) (v : Json) :
    optionsOf presets (v.given?.getD .null) = optionsOf presets v ∨
      optionsOf presets (v.given?.getD .null) = .ok [] ∧
        (v = .str "" ∨ IsVoid v ∧ optionsOf presets v = .error (.fault .wrongKind)) := by
  cases h : v.isGiven with
  | true => exact .inl (by rw [Json.given?, h]; rfl)
  | false =>
      have hgiven : v.given?.getD .null = .null := by rw [Json.given?, h]; rfl
      rw [hgiven]
      cases v with
      | null => exact .inl rfl
      | str s =>
          obtain rfl : s = "" := by simpa [Json.isGiven] using h
          exact .inr ⟨rfl, .inl rfl⟩
      | arr xs =>
          obtain rfl : xs = [] := by simpa [Json.isGiven] using h
          exact .inl rfl
      | obj ms =>
          obtain rfl : ms = [] := by simpa [Json.isGiven] using h
          exact .inl rfl
      | bool b => exact .inr ⟨rfl, .inr ⟨⟨h, by simp, rfl⟩, rfl⟩⟩
      | int n => exact .inr ⟨rfl, .inr ⟨⟨h, by simp, rfl⟩, rfl⟩⟩
      | float x => exact .inr ⟨rfl, .inr ⟨⟨h, by simp, rfl⟩, rfl⟩⟩

/-- Of the members that a record passes on, a reader that finds the same in whatever does not count
as given finds the same in all. -/
theorem read_recordOf_of_not_isGiven {key : String} (hkey : key ∈ patchMembers) {α : Type}
    (read : Json → α) (hread : ∀ {v : Json}, v.isGiven = false → read v = read .null) :
    read ((recordOf v).memberOrNull key) = read (v.memberOrNull key) := by
  rw [memberOrNull_recordOf hkey, Json.given?]
  split
  · rfl
  · next hgiven => exact (hread (Bool.not_eq_true _ ▸ hgiven)).symm

/-! ## Checking and reading a patch step -/

section

variable {presets : PairTable} (hid : v.memberOrNull "id" = .str id)
  (hlead : isPatchId id = true) (hkeeps : KeepsPatch v)

include hid in
theorem isObject_of_id : v.isObject = true := by
  cases v with
  | obj ms => rfl
  | _ => cases hid

include hid in
theorem isPresetEntry_of_id : Payload.isPresetEntry v = false := by
  unfold Json.memberOrNull at hid
  cases hmember : v.member? "id" with
  | none => simp [hmember] at hid
  | some w => simp [Payload.isPresetEntry, hmember]

include hid in
theorem targetOf_of_id :
    targetOf v = .ok (if v.memberOrNull "target" = .null then .str (patchTarget id)
      else v.memberOrNull "target") := by
  unfold targetOf
  split
  · next hnull =>
      rw [idOf_eq_ok (isObject_of_id hid) hid rfl, if_pos hnull]
      rfl
  · next hother => exact congrArg _ (if_neg hother).symm

include hid in
theorem patchRecordOf_of_id :
    patchRecordOf v = .ok (("target", .str (patchTarget id)) :: keptMembers v) := by
  rw [patchRecordOf, idOf_eq_ok (isObject_of_id hid) hid rfl]
  rfl

theorem patchOf_of_target {source : Option String} {target : Json}
    (hobject : v.isObject = true) (htarget : targetOf v = .ok target) :
    patchOf presets source v = (do
      let options ← optionsOf presets (v.memberOrNull "options")
      let vars ← liftFault (declarationsOf (v.memberOrNull "vars"))
      return {
        target, options, vars, source
        tags := textsOf (v.memberOrNull "tags")
        text := textChangeOf (v.memberOrNull "text") }) := by
  rw [patchOf, hobject, htarget]
  rfl

include hid in
/-- The patch of a record has the target of the id, and options only where they count as given. -/
theorem patchOf_recordOf (source : Option String) :
    patchOf presets source (recordOf v) = (do
      let options ← optionsOf presets ((v.memberOrNull "options").given?.getD .null)
      let vars ← liftFault (declarationsOf (v.memberOrNull "vars"))
      return {
        target := .str (patchTarget id), options, vars, source
        tags := textsOf (v.memberOrNull "tags")
        text := textChangeOf (v.memberOrNull "text") }) := by
  have htarget : targetOf (recordOf v) = .ok (.str (patchTarget id)) := by
    rw [targetOf, recordOf, hid]
    rfl
  rw [patchOf_of_target rfl htarget, memberOrNull_recordOf (by decide),
    read_recordOf_of_not_isGiven (by decide) declarationsOf declarationsOf_of_not_isGiven,
    read_recordOf_of_not_isGiven (by decide) textsOf textsOf_of_not_isGiven,
    read_recordOf_of_not_isGiven (by decide) textChangeOf textChangeOf_of_not_isGiven]

include hid hlead in
theorem checkStepEntry_patch (i : Nat) :
    checkStepEntry presets i v =
      checkPatch presets ⟨entryPlace "steps" i, "Patch '" ++ id ++ "'"⟩ "id"
        (.str (patchTarget id)) v := by
  have hobject : v.isObject = true := isObject_of_id hid
  have hproper : isProperText (.str id) = true := by
    simp [isProperText, Json.asText?, not_isBlankText_of_isPatchId hlead]
  simp only [checkStepEntry, isPresetEntry_of_id hid, hid, hobject, hproper, Json.asText?, hlead,
    Option.getD_some, Bool.not_true, Bool.false_eq_true, if_false, if_true]

include hid hlead hkeeps in
/-- A patch is checked as a record as it is as a step. -/
theorem sameFindings_recordOf (i j : Nat) :
    SameFindings (checkPatchEntry presets i (recordOf v)) (checkStepEntry presets j v) := by
  have htarget : (recordOf v).memberOrNull "target" = .str (patchTarget id) := by
    rw [recordOf, hid]
    rfl
  rw [checkStepEntry_patch hid hlead]
  unfold checkPatchEntry
  rw [htarget]
  refine sameFindings_checkPatch "target" "id" _ ?_ ?_ ?_ ?_
  · rw [read_recordOf (by decide) hkeeps.tags (checkTags true _) rfl]
    exact sameFindings_checkTags _ _ _ _
  · rw [read_recordOf (by decide) hkeeps.text (checkTextChange _) rfl]
    exact sameFindings_checkTextChange _ _ _
  · rw [read_recordOf (by decide) hkeeps.options (checkOptions presets _) rfl]
    exact sameFindings_checkOptions _ _ _ _
  · rw [read_recordOf (by decide) hkeeps.vars (checkVars _) rfl]
    exact sameFindings_checkVars _ _ _

include hid hkeeps in
/-- A patch is read off a record as it is off a step. -/
theorem readPatch_recordOf (source : Option String) :
    Content.readPatch presets source (recordOf v) = Content.readPatch presets source v := by
  have htarget : targetOf v = .ok (.str (patchTarget id)) := by
    rw [targetOf_of_id hid]
    rcases hkeeps.target with hnull | hsame
    · rw [if_pos hnull]
    · rw [hsame, hid]
      rfl
  unfold Content.readPatch
  rw [patchOf_recordOf hid, patchOf_of_target (isObject_of_id hid) htarget,
    getD_given? hkeeps.options (optionsOf presets) rfl]

end

/-- A patch step and the patch record that it becomes are read as the same patch, but for a target
of its own, and for options that do not count as given and are none all the same: those that name a
preset without a name, and those that are false or a zero. -/
theorem record_reads_as_step (presets : PairTable) (source : Option String)
    (hid : v.memberOrNull "id" = .str id) :
    ∃ record, patchRecordOf v = .ok record ∧
      (∀ p, patchOf presets source v = .ok p →
        (p.target = .str (patchTarget id) ↔
          v.memberOrNull "target" = .null ∨
            v.memberOrNull "target" = .str (patchTarget id)) ∧
        ∃ options, patchOf presets source (.obj record) =
            .ok { p with target := .str (patchTarget id), options } ∧
          (options = p.options ∨ v.memberOrNull "options" = .str "" ∧ options = [])) ∧
      ∀ f, patchOf presets source v = .error f →
        patchOf presets source (.obj record) = .error f ∨
          v.memberOrNull "options" = .str "" ∨ IsVoid (v.memberOrNull "options") := by
  have hrecord : recordOf v = .obj (("target", .str (patchTarget id)) :: keptMembers v) := by
    rw [recordOf, hid]
    rfl
  have htarget : (if v.memberOrNull "target" = .null then Json.str (patchTarget id)
      else v.memberOrNull "target") = .str (patchTarget id) ↔
        v.memberOrNull "target" = .null ∨
          v.memberOrNull "target" = .str (patchTarget id) := by
    split
    · next hnull => exact iff_of_true rfl (.inl hnull)
    · next hother => exact (or_iff_right hother).symm
  refine ⟨_, patchRecordOf_of_id hid, ?_⟩
  rw [← hrecord, patchOf_recordOf hid,
    patchOf_of_target (isObject_of_id hid) (targetOf_of_id hid)]
  rcases optionsOf_given?_cases presets (v.memberOrNull "options") with hsame | ⟨hnone, hwhy⟩
  · rw [hsame]
    refine ⟨fun p hp => ?_, fun f hf => .inl ?_⟩
    · obtain ⟨options, hoptions, hp⟩ := bind_eq_ok_iff.mp hp
      obtain ⟨vars, hvars, hp⟩ := bind_eq_ok_iff.mp hp
      obtain rfl := Except.ok.inj hp
      exact ⟨htarget, options, by rw [hoptions, hvars]; rfl, .inl rfl⟩
    · -- what stops the reading comes before the target is made use of
      cases hoptions : optionsOf presets (v.memberOrNull "options") with
      | error g =>
          rw [hoptions] at hf
          exact hf
      | ok options =>
          rw [hoptions] at hf
          cases hvars : liftFault (declarationsOf (v.memberOrNull "vars")) with
          | error g =>
              rw [hvars] at hf
              exact hf
          | ok vars =>
              rw [hvars] at hf
              cases hf
  · rw [hnone]
    refine ⟨fun p hp => ?_, fun f _ => .inr (hwhy.imp_right And.left)⟩
    obtain ⟨options, hoptions, hp⟩ := bind_eq_ok_iff.mp hp
    obtain ⟨vars, hvars, hp⟩ := bind_eq_ok_iff.mp hp
    obtain rfl := Except.ok.inj hp
    refine ⟨htarget, [], by rw [hvars]; rfl, .inr ⟨?_, rfl⟩⟩
    rcases hwhy with hempty | ⟨-, hvoid⟩
    · exact hempty
    · rw [hoptions] at hvoid
      cases hvoid

/-- A patch step with nothing but empty members besides its tags. -/
theorem record_reads_as_step_at_gate :
    let step : Json := .obj [("id", .str "@patch:Gate"), ("tags", .arr [.str "+seen"]),
      ("text", .str ""), ("options", .arr []), ("vars", .int 0)]
    step.memberOrNull "id" = .str "@patch:Gate" ∧
      ∃ record p, patchRecordOf step = .ok record ∧ patchOf [] none step = .ok p ∧
        p.tags = ["+seen"] ∧ p.target = .str "Gate" ∧ patchOf [] none (.obj record) = .ok p := by
  intro step
  have hid : step.memberOrNull "id" = .str "@patch:Gate" := by decide +kernel
  have hgate : patchTarget "@patch:Gate" = "Gate" := by decide +kernel
  have hstep : patchOf [] none step = .ok { target := .str "Gate", tags := ["+seen"] } := by
    decide +kernel
  obtain ⟨record, hrecord, hread, -⟩ := record_reads_as_step [] none hid
  obtain ⟨-, options, hpatch, hoptions⟩ := hread _ hstep
  obtain rfl : options = [] := hoptions.elim id And.right
  rw [hgate] at hpatch
  exact ⟨hid, record, _, hrecord, hstep, rfl, rfl, hpatch⟩

/-- The target of the step wins over its id, but not in the record. -/
theorem record_can_read_otherwise :
    let step : Json := .obj [("id", .str "@patch:Gate"), ("target", .str "Hall")]
    (patchOf [] none step).map (·.target) = .ok (.str "Hall") ∧
      (patchRecordOf step).bind (fun record => (patchOf [] none (.obj record)).map (·.target)) =
        .ok (.str "Gate") := by
  decide +kernel

end Questline
