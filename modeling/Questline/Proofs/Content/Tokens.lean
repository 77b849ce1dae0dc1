import Questline.Content.Validation
import Questline.Proofs.Json.PairTable

/-!
# Tokens that can be read

Validation stops at nothing but a text that, read as a tag, compares with a
number that is too long.
-/

namespace Questline

namespace Json

/-- The second value is the first, or somewhere in it. -/
inductive Holds : Json → Json → Prop where
  | self (v : Json) : Holds v v
  | element {xs : List Json} {x w : Json} (hx : x ∈ xs) (h : Holds x w) : Holds (.arr xs) w
  | member {ms : Table Json} {key : String} {x w : Json} (hx : (key, x) ∈ ms) (h : Holds x w) :
    Holds (.obj ms) w

/-- Every text in the value can be read as a tag. -/
def HasReadableTexts (v : Json) : Prop :=
  ∀ token, v.Holds (.str token) → Tag.isReadable token = true

namespace HasReadableTexts

variable {v x : Json} {xs : List Json} {ms : Table Json} {key token : String}

theorem null : HasReadableTexts .null := nofun

theorem text (h : HasReadableTexts (.str token)) : Tag.isReadable token = true := h token (.self _)

theorem element (h : HasReadableTexts (.arr xs)) (hx : x ∈ xs) : x.HasReadableTexts :=
  fun token htoken => h token (.element hx htoken)

theorem member (h : HasReadableTexts (.obj ms)) (hx : (key, x) ∈ ms) : x.HasReadableTexts :=
  fun token htoken => h token (.member hx htoken)

theorem memberOrNull (h : v.HasReadableTexts) (key : String) :
    (v.memberOrNull key).HasReadableTexts := by
  unfold Json.memberOrNull
  cases hmember : v.member? key with
  | none => exact null
  | some x =>
      cases v with
      | obj ms => exact h.member (Table.mem_of_get? hmember)
      | _ => cases hmember

end HasReadableTexts

end Json

/-! ## Findings -/

namespace Validation

variable {fs gs : List Finding} {spot : Spot} {p : Problem} {presets : PairTable} {v : Json}

/-- No finding stops the validation. -/
def GoesOn (fs : List Finding) : Prop := Finding.unreadableTag ∉ fs

theorem goesOn_nil : GoesOn [] := nofun

theorem goesOn_append : GoesOn (fs ++ gs) ↔ GoesOn fs ∧ GoesOn gs := by
  simp [GoesOn]

theorem goesOn_patchTarget {l : Link} : GoesOn (.patchTarget l :: fs) ↔ GoesOn fs := by
  simp [GoesOn]

theorem goesOn_problem (spot : Spot) (p : Problem) : GoesOn (problem spot p) := by
  simp [GoesOn, problem]

theorem goesOn_require (holds : Bool) (spot : Spot) (p : Problem) :
    GoesOn (require holds spot p) := by
  unfold require
  split
  · exact goesOn_nil
  · exact goesOn_problem spot p

theorem goesOn_flatMap {α : Type} {xs : List α} {check : α → List Finding}
    (h : ∀ x ∈ xs, GoesOn (check x)) : GoesOn (xs.flatMap check) := by
  rw [GoesOn, List.mem_flatMap]
  rintro ⟨x, hx, hstop⟩
  exact h x hx hstop

theorem goesOn_each {xs : List Json} {check : Nat → Json → List Finding}
    (h : ∀ i, ∀ x ∈ xs, GoesOn (check i x)) : GoesOn (each xs check) := by
  refine goesOn_flatMap fun entry hentry => ?_
  exact h entry.2 entry.1 (List.mem_of_getElem? (List.mk_mem_zipIdx_iff_getElem?.mp hentry))

theorem goesOn_checkTag (allowBase : Bool) (spot : Spot) {token : String}
    (h : Tag.isReadable token = true) : GoesOn (checkTag allowBase spot token) := by
  rw [checkTag, if_pos h]
  dsimp only
  split
  · exact goesOn_problem _ _
  · split
    · exact goesOn_problem _ _
    · exact goesOn_nil

theorem goesOn_checkTags (allowBase : Bool) (spot : Spot) (h : v.HasReadableTexts) :
    GoesOn (checkTags allowBase spot v) := by
  unfold checkTags
  split
  · exact goesOn_nil
  · split
    · next hlist =>
        cases v with
        | arr xs =>
            refine goesOn_each fun i x hx => ?_
            have htext : x.asText?.isSome = true := by
              have hall : xs.all (fun x => x.asText?.isSome) = true := hlist
              exact List.all_eq_true.mp hall x hx
            cases x with
            | str token =>
                have htoken : Tag.isReadable token = true := (h.element hx).text
                exact goesOn_checkTag allowBase _ htoken
            | _ => contradiction
        | _ => contradiction
    · exact goesOn_problem _ _

theorem goesOn_checkVars (spot : Spot) (v : Json) : GoesOn (checkVars spot v) := by
  unfold checkVars
  split
  · exact goesOn_nil
  · refine goesOn_flatMap fun entry _ => ?_
    obtain ⟨name, choices⟩ := entry
    unfold checkVar
    dsimp only
    split
    · exact goesOn_problem _ _
    · split
      · exact goesOn_nil
      · exact goesOn_nil
      · exact goesOn_each fun _ _ _ => goesOn_require _ _ _
      · exact goesOn_problem _ _
  · exact goesOn_problem _ _

theorem goesOn_checkTarget (spot : Spot) (p : Problem) (v : Json) :
    GoesOn (checkTarget spot p v) := by
  unfold checkTarget
  split
  · exact goesOn_nil
  · split
    · simp [GoesOn]
    · exact goesOn_problem _ _

theorem goesOn_checkSkill (spot : Spot) (v : Json) : GoesOn (checkSkill spot v) := by
  unfold checkSkill
  split
  · exact goesOn_require _ _ _
  · simp only [goesOn_append, goesOn_require, and_self]

theorem goesOn_checkOption (spot : Spot) (h : v.HasReadableTexts) :
    GoesOn (checkOption spot v) := by
  unfold checkOption
  split
  · unfold checkShorthand
    split
    · exact goesOn_problem _ _
    · split
      · split
        · exact goesOn_nil
        · simp [GoesOn]
      · exact goesOn_nil
  · have htags := goesOn_checkTags false (Spot.member spot "tags") (h.memberOrNull "tags")
    simp only [checkObjectOption, goesOn_append, goesOn_require, htags, goesOn_checkTarget,
      goesOn_checkSkill, and_self]
  · exact goesOn_problem _ _

theorem goesOn_checkOptions (presets : PairTable) (spot : Spot) (h : v.HasReadableTexts) :
    GoesOn (checkOptions presets spot v) := by
  unfold checkOptions
  split
  · exact goesOn_nil
  · exact goesOn_require _ _ _
  · exact goesOn_each fun _ x hx => goesOn_checkOption _ (h.element hx)
  · exact goesOn_problem _ _

theorem goesOn_checkTextChange (spot : Spot) (v : Json) : GoesOn (checkTextChange spot v) := by
  unfold checkTextChange
  split
  · exact goesOn_nil
  · refine goesOn_flatMap fun entry _ => ?_
    dsimp only
    split
    · exact goesOn_require _ _ _
    · exact goesOn_problem _ _
  · exact goesOn_problem _ _

theorem goesOn_checkPatch (presets : PairTable) (spot : Spot) (key : String) (target : Json)
    (h : v.HasReadableTexts) : GoesOn (checkPatch presets spot key target v) := by
  unfold checkPatch
  dsimp only
  split
  · exact goesOn_problem _ _
  · split
    · exact goesOn_problem _ _
    · have htags := goesOn_checkTags true (Spot.member spot "tags") (h.memberOrNull "tags")
      have hoptions :=
        goesOn_checkOptions presets (Spot.member spot "options") (h.memberOrNull "options")
      simp only [goesOn_patchTarget, goesOn_append, htags, goesOn_checkTextChange, hoptions,
        goesOn_checkVars, and_self]

theorem goesOn_checkPlainStep (presets : PairTable) (spot : Spot) (h : v.HasReadableTexts) :
    GoesOn (checkPlainStep presets spot v) := by
  have htags := goesOn_checkTags false (Spot.member spot "tags") (h.memberOrNull "tags")
  have hoptions :=
    goesOn_checkOptions presets (Spot.member spot "options") (h.memberOrNull "options")
  simp only [checkPlainStep, goesOn_append, goesOn_require, htags, goesOn_checkVars, hoptions,
    and_self]

theorem goesOn_checkStepEntry (presets : PairTable) (i : Nat) (h : v.HasReadableTexts) :
    GoesOn (checkStepEntry presets i v) := by
  unfold checkStepEntry
  dsimp only
  split
  · exact goesOn_nil
  · split
    · exact goesOn_problem _ _
    · split
      · exact goesOn_problem _ _
      · split
        · exact goesOn_checkPatch presets _ _ _ h
        · exact goesOn_checkPlainStep presets _ h

theorem goesOn_checkPatchEntry (presets : PairTable) (i : Nat) (h : v.HasReadableTexts) :
    GoesOn (checkPatchEntry presets i v) := by
  unfold checkPatchEntry
  dsimp only
  split
  · exact goesOn_problem _ _
  · exact goesOn_checkPatch presets _ _ _ h

theorem goesOn_checkPreset (name : Json) (h : v.HasReadableTexts) :
    GoesOn (checkPreset name v) := by
  unfold checkPreset
  dsimp only
  split
  · intro hstop
    exact goesOn_each (fun i x hx => goesOn_checkOption _ (h.element hx))
      (List.mem_filter.mp hstop).1
  · exact goesOn_problem _ _

/-- The value and the presets hold only texts that can be read as tags. -/
def HasReadableTokens (payload : Payload) : Prop :=
  payload.value.HasReadableTexts ∧ ∀ entry ∈ payload.presets, entry.2.HasReadableTexts

theorem elements_of_memberOrNull (h : v.HasReadableTexts) (key : String) :
    ∀ x ∈ ((v.memberOrNull key).asList?).getD [], x.HasReadableTexts := by
  have hmember := h.memberOrNull key
  cases hlist : v.memberOrNull key with
  | arr xs =>
      rw [hlist] at hmember
      exact fun x hx => hmember.element hx
  | _ => nofun

theorem ownPresets_readable (h : v.HasReadableTexts) :
    ∀ entry ∈ PairTable.ofTable (Payload.ownPresets v), entry.2.HasReadableTexts := by
  have hmember := h.memberOrNull "option_presets"
  unfold Payload.ownPresets PairTable.ofTable
  cases htable : v.memberOrNull "option_presets" with
  | obj ms =>
      rw [htable] at hmember
      intro entry hentry
      obtain ⟨preset, hpreset, rfl⟩ := List.mem_map.mp hentry
      exact hmember.member hpreset
  | _ => nofun

theorem addPresets_readable {entries : List Json} (hpresets : ∀ entry ∈ presets,
    entry.2.HasReadableTexts) (hentries : ∀ x ∈ entries, x.HasReadableTexts) :
    ∀ entry ∈ Payload.addPresets presets entries, entry.2.HasReadableTexts := by
  unfold Payload.addPresets
  have hdeclaring : ∀ x ∈ entries.filter Payload.isPresetEntry, x.HasReadableTexts :=
    fun x hx => hentries x (List.mem_filter.mp hx).1
  generalize entries.filter Payload.isPresetEntry = declaring at hdeclaring
  induction declaring generalizing presets with
  | nil => exact hpresets
  | cons x declaring ih =>
      rw [List.forall_mem_cons] at hdeclaring
      exact ih (PairTable.forall_mem_update hpresets (ownPresets_readable hdeclaring.1))
        hdeclaring.2

/-- The presets of a value stand in it themselves. -/
theorem hasReadableTokens_ofJson (h : v.HasReadableTexts) : HasReadableTokens (.ofJson v) :=
  ⟨h, addPresets_readable (ownPresets_readable h) (elements_of_memberOrNull h "steps")⟩

theorem goesOn_findings {payload : Payload} (h : HasReadableTokens payload) :
    GoesOn (findings payload) := by
  have hpresets : GoesOn (payload.presets.flatMap fun p => checkPreset p.1 p.2) :=
    goesOn_flatMap fun entry hentry => goesOn_checkPreset _ (h.2 entry hentry)
  have hentries : GoesOn (each payload.entries (checkStepEntry payload.presets)) :=
    goesOn_each fun i x hx =>
      goesOn_checkStepEntry _ i (elements_of_memberOrNull h.1 "steps" x hx)
  have hpatches : GoesOn (each (((payload.value.memberOrNull "patches").asList?).getD [])
      (checkPatchEntry payload.presets)) :=
    goesOn_each fun i x hx =>
      goesOn_checkPatchEntry _ i (elements_of_memberOrNull h.1 "patches" x hx)
  simp only [findings, goesOn_append, goesOn_require, hpresets, hentries, hpatches, and_self]

/-- Without a token that cannot be read, there is a report. -/
theorem validate_of_goesOn {payload : Payload} (h : GoesOn (findings payload)) :
    validate payload = .ok (reportOn payload) := by
  have hnone : (findings payload).any Finding.isUnreadableTag = false := by
    rw [List.any_eq_false]
    intro f hf hstop
    cases f with
    | unreadableTag => exact h hf
    | _ => contradiction
  rw [validate, hnone, Bool.and_false]
  rfl

theorem validate_eq_ok {payload : Payload} (h : HasReadableTokens payload) :
    validate payload = .ok (reportOn payload) :=
  validate_of_goesOn (goesOn_findings h)

end Validation

end Questline
