import Questline.Proofs.Content.Checks
import Questline.Proofs.Content.Tokens

/-!
# Findings apart from their spots

A check says where it found something, but what it finds does not depend on
that.  The same record at two spots has the same findings, and which of them
are errors, or stop the validation, can be told without the spots.
-/

namespace Questline

/-- A finding without its spot. -/
def Finding.unplaced : Finding → Finding
  | issue i => issue ⟨⟨[], ""⟩, i.problem⟩
  | optionTarget l => optionTarget ⟨⟨[], ""⟩, l.target⟩
  | patchTarget l => patchTarget ⟨⟨[], ""⟩, l.target⟩
  | unreadableTag => unreadableTag

namespace Validation

variable {fs fs' gs gs' : List Finding} {v : Json} {xs : List Json}

/-- The same findings in the same order, at whatever spots. -/
def SameFindings (fs gs : List Finding) : Prop :=
  fs.map Finding.unplaced = gs.map Finding.unplaced

theorem SameFindings.append (h : SameFindings fs gs) (h' : SameFindings fs' gs') :
    SameFindings (fs ++ fs') (gs ++ gs') := by
  unfold SameFindings at h h' ⊢
  rw [List.map_append, List.map_append, h, h']

theorem SameFindings.patchTarget {s s' : Spot} (h : SameFindings fs gs) (target : String) :
    SameFindings (.patchTarget ⟨s, target⟩ :: fs) (.patchTarget ⟨s', target⟩ :: gs) := by
  unfold SameFindings at h ⊢
  rw [List.map_cons, List.map_cons, h]
  rfl

theorem sameFindings_flatMap {α : Type} {as : List α} {check check' : α → List Finding}
    (h : ∀ a ∈ as, SameFindings (check a) (check' a)) :
    SameFindings (as.flatMap check) (as.flatMap check') := by
  unfold SameFindings
  rw [List.map_flatMap, List.map_flatMap]
  exact List.flatMap_congr h

theorem sameFindings_each {check check' : Nat → Json → List Finding}
    (h : ∀ i x, SameFindings (check i x) (check' i x)) :
    SameFindings (each xs check) (each xs check') :=
  sameFindings_flatMap fun entry _ => h entry.2 entry.1

/-- Records that are checked alike at every position may stand in any order. -/
theorem mem_each_unplaced {check : Nat → Json → List Finding}
    (h : ∀ i j x, SameFindings (check i x) (check j x)) {f : Finding} :
    f ∈ (each xs check).map Finding.unplaced ↔
      ∃ x ∈ xs, f ∈ (check 0 x).map Finding.unplaced := by
  rw [each, List.map_flatMap, List.mem_flatMap]
  constructor
  · rintro ⟨⟨x, i⟩, hx, hf⟩
    refine ⟨x, List.mem_of_getElem? (List.mk_mem_zipIdx_iff_getElem?.mp hx), ?_⟩
    exact h i 0 x ▸ hf
  · rintro ⟨x, hx, hf⟩
    obtain ⟨i, hi⟩ := List.mem_iff_getElem?.mp hx
    exact ⟨(x, i), List.mk_mem_zipIdx_iff_getElem?.mpr hi, h 0 i x ▸ hf⟩

/-! ## Errors and stops -/

theorem clean_unplaced : Clean (fs.map Finding.unplaced) ↔ Clean fs := by
  constructor
  · intro h i hi
    exact h ⟨⟨[], ""⟩, i.problem⟩ (List.mem_map_of_mem hi)
  · intro h i hi
    obtain ⟨f, hf, hfi⟩ := List.mem_map.mp hi
    cases f with
    | issue j =>
        obtain rfl := Finding.issue.inj hfi
        exact h j hf
    | _ => cases hfi

theorem goesOn_unplaced : GoesOn (fs.map Finding.unplaced) ↔ GoesOn fs := by
  have hstop : ∀ f : Finding, f.unplaced = .unreadableTag ↔ f = .unreadableTag := by
    intro f
    cases f <;> simp [Finding.unplaced]
  simp [GoesOn, hstop]

/-! ## Checks at two spots -/

variable (s s' : Spot)

theorem sameFindings_problem (p : Problem) : SameFindings (problem s p) (problem s' p) := rfl

theorem sameFindings_require (holds : Bool) (p : Problem) :
    SameFindings (require holds s p) (require holds s' p) := by
  unfold require
  split
  · rfl
  · exact sameFindings_problem s s' p

theorem sameFindings_checkTag (allowBase : Bool) (token : String) :
    SameFindings (checkTag allowBase s token) (checkTag allowBase s' token) := by
  unfold checkTag
  dsimp only
  split_ifs <;> rfl

theorem sameFindings_checkTags (allowBase : Bool) (v : Json) :
    SameFindings (checkTags allowBase s v) (checkTags allowBase s' v) := by
  unfold checkTags
  split_ifs
  · rfl
  · exact sameFindings_each fun _ _ => sameFindings_checkTag _ _ _ _
  · exact sameFindings_problem s s' _

theorem sameFindings_checkVar (name : String) (v : Json) :
    SameFindings (checkVar s name v) (checkVar s' name v) := by
  unfold checkVar
  split
  · exact sameFindings_problem s s' _
  · cases v with
    | arr xs => exact sameFindings_each fun _ _ => sameFindings_require _ _ _ _
    | _ => rfl

theorem sameFindings_checkVars (v : Json) : SameFindings (checkVars s v) (checkVars s' v) := by
  cases v with
  | obj ms => exact sameFindings_flatMap fun m _ => sameFindings_checkVar s s' m.1 m.2
  | _ => rfl

theorem sameFindings_checkShorthand (text : String) :
    SameFindings (checkShorthand s text) (checkShorthand s' text) := by
  unfold checkShorthand
  split
  · exact sameFindings_problem s s' _
  · split
    · split <;> rfl
    · rfl

theorem sameFindings_checkTarget (p : Problem) (v : Json) :
    SameFindings (checkTarget s p v) (checkTarget s' p v) := by
  unfold checkTarget
  split_ifs <;> rfl

theorem sameFindings_checkSkill (v : Json) : SameFindings (checkSkill s v) (checkSkill s' v) := by
  unfold checkSkill
  dsimp only
  split
  · exact sameFindings_require _ _ _ _
  · exact ((sameFindings_require _ _ _ _).append (sameFindings_require _ _ _ _)).append
      (sameFindings_require _ _ _ _)

theorem sameFindings_checkOption (v : Json) :
    SameFindings (checkOption s v) (checkOption s' v) := by
  cases v with
  | str text => exact sameFindings_checkShorthand s s' text
  | obj ms =>
      simp only [checkOption, checkObjectOption]
      refine .append (.append (.append (.append (.append ?_ ?_) ?_) ?_) ?_) ?_
      · exact sameFindings_require _ _ _ _
      · exact sameFindings_checkTags _ _ _ _
      · exact sameFindings_checkTarget _ _ _ _
      · exact sameFindings_checkTarget _ _ _ _
      · exact sameFindings_checkSkill _ _ _
      · exact sameFindings_require _ _ _ _
  | _ => rfl

theorem sameFindings_checkOptions (presets : PairTable) (v : Json) :
    SameFindings (checkOptions presets s v) (checkOptions presets s' v) := by
  cases v with
  | str name => exact sameFindings_require _ _ _ _
  | arr xs =>
      rw [checkOptions, checkOptions]
      exact sameFindings_each fun i x => sameFindings_checkOption _ _ x
  | _ => rfl

theorem sameFindings_checkTextChange (v : Json) :
    SameFindings (checkTextChange s v) (checkTextChange s' v) := by
  cases v with
  | obj ms =>
      refine sameFindings_flatMap fun m _ => ?_
      dsimp only
      split
      · exact sameFindings_require _ _ _ _
      · exact sameFindings_problem _ _ _
  | _ => rfl

/-- Patches of the same target are checked alike if their members are. -/
theorem sameFindings_checkPatch {s s'} {presets : PairTable} (key key' : String) (target : Json)
    {v w : Json}
    (htags : SameFindings (checkTags true (Spot.member s "tags") (v.memberOrNull "tags"))
      (checkTags true (Spot.member s' "tags") (w.memberOrNull "tags")))
    (htext : SameFindings (checkTextChange (Spot.member s "text") (v.memberOrNull "text"))
      (checkTextChange (Spot.member s' "text") (w.memberOrNull "text")))
    (hoptions :
      SameFindings (checkOptions presets (Spot.member s "options") (v.memberOrNull "options"))
        (checkOptions presets (Spot.member s' "options") (w.memberOrNull "options")))
    (hvars : SameFindings (checkVars (Spot.member s "vars") (v.memberOrNull "vars"))
      (checkVars (Spot.member s' "vars") (w.memberOrNull "vars"))) :
    SameFindings (checkPatch presets s key target v) (checkPatch presets s' key' target w) := by
  unfold checkPatch
  dsimp only
  split
  · exact sameFindings_problem _ _ _
  · split
    · exact sameFindings_problem _ _ _
    · exact (((htags.append htext).append hoptions).append hvars).patchTarget _

theorem sameFindings_checkPatch_self (presets : PairTable) (key : String) (target v : Json) :
    SameFindings (checkPatch presets s key target v) (checkPatch presets s' key target v) :=
  sameFindings_checkPatch key key target (sameFindings_checkTags _ _ _ _)
    (sameFindings_checkTextChange _ _ _) (sameFindings_checkOptions _ _ _ _)
    (sameFindings_checkVars _ _ _)

theorem sameFindings_checkPlainStep (presets : PairTable) (v : Json) :
    SameFindings (checkPlainStep presets s v) (checkPlainStep presets s' v) := by
  unfold checkPlainStep
  refine .append (.append (.append (.append ?_ ?_) ?_) ?_) ?_
  · exact sameFindings_require _ _ _ _
  · exact sameFindings_require _ _ _ _
  · exact sameFindings_checkTags _ _ _ _
  · exact sameFindings_checkVars _ _ _
  · exact sameFindings_checkOptions _ _ _ _

theorem sameFindings_checkStepEntry (presets : PairTable) (i j : Nat) (v : Json) :
    SameFindings (checkStepEntry presets i v) (checkStepEntry presets j v) := by
  unfold checkStepEntry
  dsimp only
  split_ifs
  · rfl
  · rfl
  · rfl
  · exact sameFindings_checkPatch_self _ _ _ _ _ _
  · exact sameFindings_checkPlainStep _ _ _ _

theorem sameFindings_checkPatchEntry (presets : PairTable) (i j : Nat) (v : Json) :
    SameFindings (checkPatchEntry presets i v) (checkPatchEntry presets j v) := by
  unfold checkPatchEntry
  dsimp only
  split
  · rfl
  · exact sameFindings_checkPatch_self _ _ _ _ _ _

end Validation

end Questline
