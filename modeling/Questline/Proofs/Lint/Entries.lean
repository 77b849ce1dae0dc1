import Questline.Lint.Check
import Questline.Proofs.Content.Reach
import Questline.Proofs.Matching.Drafts
import Questline.Proofs.Player.Settling

/-!
# Entries of checked payloads

The lint checks go through a payload once more, as it was written.  If no error
was found in it, every entry is the record of a step or of a patch, its tags can
be read and its options are those of the record.  Nothing can stop the checks
then but a location whose name is no text.
-/

namespace Questline

variable {presets : PairTable} {source : Option String} {v : Json} {payload : Payload} {c : Content}

/-! ## Records as they were written -/

theorem eq_map_of_convert? {a : Option Json} {t : Option String}
    (h : convert? Json.asText? a = some t) : a = t.map .str := by
  cases a with
  | none =>
      obtain rfl := Option.some.inj h
      rfl
  | some a =>
      rw [convert?, Option.map_eq_some_iff] at h
      obtain ⟨s, hs, rfl⟩ := h
      rw [eq_str_of_asText? hs, Option.map_some]

theorem OptionOf.eq_map_of_convert? {a : AuthoredOption} {o : StepOption}
    (h : a.convert? Json.asText? = some o) : a = o.map .str := by
  simp only [OptionOf.convert?, Option.bind_eq_bind, Option.bind_eq_some_iff, Option.pure_def,
    Option.some.injEq] at h
  obtain ⟨pass, hpass, fail, hfail, rfl⟩ := h
  rw [OptionOf.map, ← Questline.eq_map_of_convert? hpass, ← Questline.eq_map_of_convert? hfail]

theorem eq_map_of_mapM_convert? {as : List AuthoredOption} {os : List StepOption}
    (h : as.mapM (OptionOf.convert? Json.asText?) = some os) :
    as = os.map (OptionOf.map .str) := by
  have heach := (forall₂_of_mapM_eq_some h).imp fun _ _ => OptionOf.eq_map_of_convert?
  rwa [← List.forall₂_eq_eq_eq, List.forall₂_map_right_iff]

theorem TextChangeOf.eq_map_of_convert? {a : TextChangeOf Json} {t : TextChangeOf String}
    (h : a.convert? Json.asText? = some t) : a = t.map .str := by
  simp only [TextChangeOf.convert?, Option.bind_eq_bind, Option.bind_eq_some_iff, Option.pure_def,
    Option.some.injEq] at h
  obtain ⟨before, hbefore, after, hafter, instead, hinstead, rfl⟩ := h
  rw [TextChangeOf.map, ← Questline.eq_map_of_convert? hbefore,
    ← Questline.eq_map_of_convert? hafter, ← Questline.eq_map_of_convert? hinstead]

theorem eq_draftOf_of_convert? {a : AuthoredStep} {s : Step}
    (h : a.convert? Json.asText? = some s) : a = draftOf s := by
  simp only [StepOf.convert?, Option.bind_eq_bind, Option.bind_eq_some_iff, Option.pure_def,
    Option.some.injEq] at h
  obtain ⟨id, hid, text, htext, options, hoptions, log, hlog, rfl⟩ := h
  rw [draftOf, StepOf.map, ← eq_str_of_asText? hid, ← eq_str_of_asText? htext,
    ← eq_map_of_mapM_convert? hoptions, ← eq_map_of_convert? hlog]

theorem eq_draftOfPatch_of_convert? {a : AuthoredPatch} {p : StepPatch}
    (h : a.convert? Json.asText? = some p) : a = draftOfPatch p := by
  simp only [PatchOf.convert?, Option.bind_eq_bind, Option.bind_eq_some_iff, Option.pure_def,
    Option.some.injEq] at h
  obtain ⟨text, htext, options, hoptions, rfl⟩ := h
  rw [draftOfPatch, PatchOf.map, ← TextChangeOf.eq_map_of_convert? htext,
    ← eq_map_of_mapM_convert? hoptions]

namespace Content

theorem stepOf_of_readStep {s : Step} (h : readStep presets source v = .ok s) :
    stepOf presets source v = .ok (draftOf s) := by
  rw [readStep, bind_eq_ok_iff] at h
  obtain ⟨a, ha, hsettle⟩ := h
  rw [ha, eq_draftOf_of_convert? (convert?_of_settle_step hsettle)]

theorem patchOf_of_readPatch {p : StepPatch} (h : readPatch presets source v = .ok p) :
    patchOf presets source v = .ok (draftOfPatch p) := by
  rw [readPatch, bind_eq_ok_iff] at h
  obtain ⟨a, ha, hsettle⟩ := h
  rw [ha, eq_draftOfPatch_of_convert? (convert?_of_settle_patch hsettle)]

/-- Built content has one record for each entry of its payload, in order, and the entry is the
draft of its record. -/
theorem drafts_of_build (h : build source payload = .ok c) :
    List.Forall₂ (fun v s => stepOf payload.presets source v = .ok (draftOf s))
        (stepRecords payload) c.steps ∧
      List.Forall₂ (fun v p => patchOf payload.presets source v = .ok (draftOfPatch p))
        (patchRecords payload) c.patches := by
  obtain ⟨-, -, hassemble⟩ := assemble_of_build h
  obtain ⟨hsteps, hpatches⟩ := reads_of_assemble hassemble
  exact ⟨hsteps.imp fun _ _ => stepOf_of_readStep, hpatches.imp fun _ _ => patchOf_of_readPatch⟩

end Content

open Validation (Passes)

/-- An object in which validation finds no error. -/
structure Payload.Checked (payload : Payload) : Prop where
  isObject : payload.value.isObject = true
  passes : Passes (Validation.findings payload)

theorem Content.checked_of_build (h : build source payload = .ok c) : payload.Checked := by
  obtain ⟨hobject, hpasses, -⟩ := assemble_of_build h
  exact ⟨hobject, hpasses⟩

namespace Lint

variable {e e' : Entry}

/-! ## Entries and records -/

/-- The entries of the step list. -/
def ownEntries (payload : Payload) : List Entry :=
  payload.entries.zipIdx.filterMap fun (v, i) => stepEntry? i v

/-- The entries of the patch records. -/
def recordEntries (payload : Payload) : List Entry :=
  (Content.listedPatches payload).zipIdx.filterMap fun (v, i) =>
    patchEntry? (payload.entries.length + i) v

def entriesIn (payload : Payload) : List Entry := ownEntries payload ++ recordEntries payload

def stepEntries (payload : Payload) : List Entry := (entriesIn payload).filter fun e => !e.isPatch

def patchEntries (payload : Payload) : List Entry := (entriesIn payload).filter Entry.isPatch

theorem mem_entriesIn_iff :
    e ∈ entriesIn payload ↔ e ∈ stepEntries payload ∨ e ∈ patchEntries payload := by
  simp only [stepEntries, patchEntries, List.mem_filter]
  cases e.isPatch <;> simp

theorem stepEntry?_eq_some {i : Nat} (h : stepEntry? i v = some e) :
    Payload.isPresetEntry v = false ∧ v.memberOrNull "id" = .str e.id ∧ e.index = i ∧
      e.record = v := by
  unfold stepEntry? at h
  split at h
  · contradiction
  · next hpreset =>
      rw [Option.map_eq_some_iff] at h
      obtain ⟨id, hid, rfl⟩ := h
      exact ⟨by simpa using hpreset, eq_str_of_asText? hid, rfl, rfl⟩

theorem patchEntry?_eq_some {i : Nat} (h : patchEntry? i v = some e) :
    e.isPatch = true ∧ e.index = i ∧ e.record = v := by
  unfold patchEntry? at h
  split at h
  · obtain rfl := Option.some.inj h
    refine ⟨?_, rfl, rfl⟩
    rw [Entry.isPatch, isPatchId, leads_iff_isPrefix, String.toList_append]
    exact List.prefix_append _ _
  · contradiction

/-- The entry with an index: those of the step list come first. -/
def entryAt? (payload : Payload) (i : Nat) : Option Entry :=
  if i < payload.entries.length then payload.entries[i]?.bind fun v => stepEntry? i v
  else (Content.listedPatches payload)[i - payload.entries.length]?.bind fun v => patchEntry? i v

theorem entryAt?_index (he : e ∈ entriesIn payload) : entryAt? payload e.index = some e := by
  rcases List.mem_append.mp he with he | he
  · obtain ⟨⟨v, i⟩, hv, hentry⟩ := List.mem_filterMap.mp he
    obtain ⟨-, -, rfl, -⟩ := stepEntry?_eq_some hentry
    have hv := List.mk_mem_zipIdx_iff_getElem?.mp hv
    obtain ⟨hlt, -⟩ := List.getElem?_eq_some_iff.mp hv
    simp only [entryAt?, if_pos hlt, hv, Option.bind_some]
    exact hentry
  · obtain ⟨⟨v, i⟩, hv, hentry⟩ := List.mem_filterMap.mp he
    obtain ⟨-, hindex, -⟩ := patchEntry?_eq_some hentry
    have hv := List.mk_mem_zipIdx_iff_getElem?.mp hv
    rw [entryAt?, hindex, if_neg (by omega), Nat.add_sub_cancel_left, hv]
    exact hentry

theorem eq_of_index_eq (he : e ∈ entriesIn payload) (he' : e' ∈ entriesIn payload)
    (h : e.index = e'.index) : e = e' := by
  have hsame := entryAt?_index he'
  rw [← h, entryAt?_index he] at hsame
  exact Option.some.inj hsame

theorem map_record_filterMap {xs : List Json}
    (hxs : ∀ v ∈ xs, Payload.isPresetEntry v = false → ∃ id, v.memberOrNull "id" = .str id)
    (keep : Bool → Bool) (k : Nat) :
    (((xs.zipIdx k).filterMap fun (v, i) => stepEntry? i v).filter fun e => keep e.isPatch).map
        Entry.record =
      xs.filter fun v => !Payload.isPresetEntry v && keep (Content.isPatchEntry v) := by
  -- `keep` is `not` for the steps and `id` for the patches; one induction serves both.
  induction xs generalizing k with
  | nil => rfl
  | cons v xs ih =>
      rw [List.forall_mem_cons] at hxs
      have ih := ih hxs.2 (k + 1)
      cases hpreset : Payload.isPresetEntry v with
      | true =>
          have hnone : stepEntry? k v = none := by simp [hpreset, stepEntry?]
          simp only [List.zipIdx_cons, List.filterMap_cons, hnone, ih, List.filter_cons, hpreset,
            Bool.not_true, Bool.false_and, Bool.false_eq_true, if_false]
      | false =>
          obtain ⟨id, hid⟩ := hxs.1 hpreset
          have hentry : stepEntry? k v = some ⟨k, id, v⟩ := by
            simp [hpreset, stepEntry?, hid, Json.asText?]
          have hpatch : Content.isPatchEntry v = Entry.isPatch ⟨k, id, v⟩ := by
            rw [Content.isPatchEntry, hid]
            rfl
          simp only [List.zipIdx_cons, List.filterMap_cons, hentry, List.filter_cons, hpreset,
            hpatch, Bool.not_false, Bool.true_and]
          split
          · rw [List.map_cons, ih]
          · exact ih

theorem map_record_of_objects {xs : List Json} (hxs : ∀ v ∈ xs, v.isObject = true) (n k : Nat) :
    ((xs.zipIdx k).filterMap fun (v, i) => patchEntry? (n + i) v).map Entry.record = xs := by
  induction xs generalizing k with
  | nil => rfl
  | cons v xs ih =>
      rw [List.forall_mem_cons] at hxs
      simp only [List.zipIdx_cons, List.filterMap_cons, patchEntry?, hxs.1, if_true, List.map_cons]
      exact congrArg (v :: ·) (ih hxs.2 (k + 1))

theorem isPatch_of_mem_recordEntries (he : e ∈ recordEntries payload) : e.isPatch = true := by
  obtain ⟨⟨v, i⟩, -, hentry⟩ := List.mem_filterMap.mp he
  exact (patchEntry?_eq_some hentry).1

theorem itemsOf_given {w : Json} (h : w.isNull = true ∨ w.asList?.isSome = true) :
    ((w.given?).getD (.arr [])).itemsOf = .ok (w.asList?.getD []) := by
  cases w with
  | null => rfl
  | arr xs => cases xs <;> rfl
  | _ => simp [Json.isNull, Json.asList?] at h

/-- Only an entry that is no patch has the id of its record. -/
theorem memberOrNull_id_of_mem_stepEntries (he : e ∈ stepEntries payload) :
    e.record.memberOrNull "id" = .str e.id := by
  rw [stepEntries, List.mem_filter, entriesIn, List.mem_append] at he
  obtain ⟨he | he, hplain⟩ := he
  · obtain ⟨⟨v, i⟩, -, hentry⟩ := List.mem_filterMap.mp he
    obtain ⟨-, hid, -, rfl⟩ := stepEntry?_eq_some hentry
    exact hid
  · rw [isPatch_of_mem_recordEntries he] at hplain
    contradiction

section

variable (h : payload.Checked)

include h

theorem exists_id_of_mem_entries (hv : v ∈ payload.entries)
    (hpreset : Payload.isPresetEntry v = false) : ∃ id, v.memberOrNull "id" = .str id := by
  obtain ⟨i, hsub⟩ := Validation.exists_subset_each hv (Validation.checkStepEntry payload.presets)
  have hsub := List.Subset.trans hsub (Validation.entries_subset_findings payload)
  have hclean := h.passes.1.mono hsub
  obtain ⟨-, id, -, hid, -⟩ := Validation.exists_id_of_checkStepEntry hpreset hclean
  exact ⟨id, hid⟩

theorem isObject_of_mem_listedPatches (hv : v ∈ Content.listedPatches payload) :
    v.isObject = true := by
  obtain ⟨i, hsub⟩ := Validation.exists_subset_each hv (Validation.checkPatchEntry payload.presets)
  have hsub := List.Subset.trans hsub (Validation.listedPatches_subset_findings payload)
  exact (Validation.checkPatchEntry_eq_checkPatch (h.passes.1.mono hsub)).1

theorem map_record_stepEntries :
    (stepEntries payload).map Entry.record = Content.stepRecords payload := by
  -- The ids of patch records start like those of patches, so none of them counts as a step.
  have hnone : (recordEntries payload).filter (fun e => !e.isPatch) = [] := by
    rw [List.filter_eq_nil_iff]
    intro e he
    simp [isPatch_of_mem_recordEntries he]
  rw [stepEntries, entriesIn, List.filter_append, hnone, List.append_nil]
  exact map_record_filterMap (fun v hv => exists_id_of_mem_entries h hv) not 0

theorem map_record_patchEntries :
    (patchEntries payload).map Entry.record = Content.patchRecords payload := by
  have hall : (recordEntries payload).filter Entry.isPatch = recordEntries payload :=
    List.filter_eq_self.mpr fun e he => isPatch_of_mem_recordEntries he
  rw [patchEntries, entriesIn, List.filter_append, hall, List.map_append, Content.patchRecords_eq]
  congr 1
  · exact map_record_filterMap (fun v hv => exists_id_of_mem_entries h hv) id 0
  · exact map_record_of_objects (fun v hv => isObject_of_mem_listedPatches h hv) _ 0

theorem entriesOf_eq : entriesOf payload.value = .ok (entriesIn payload) := by
  have hclean := h.passes.1
  simp only [Validation.findings, Validation.clean_append] at hclean
  obtain ⟨⟨⟨⟨⟨⟨hsteps, -⟩, -⟩, -⟩, -⟩, hpatches⟩, -⟩ := hclean
  have hsteps := (Validation.clean_require rfl).mp hsteps
  have hpatches := Bool.or_eq_true_iff.mp ((Validation.clean_require rfl).mp hpatches)
  rw [entriesOf, listed, itemsOf_given (.inr hsteps), listed, itemsOf_given hpatches]
  rfl

end

/-! ## What is read of an entry -/

/-- Tags that can be read, and options whose targets are texts. -/
structure Entry.Reads (presets : PairTable) (e : Entry) (tokens : List String)
    (os : List StepOption) : Prop where
  tokens_eq : e.tokens = .ok tokens
  readable : ∀ token ∈ tokens, Tag.read token = .ok (Tag.ofToken token)
  options_eq : e.options presets = os.map (OptionOf.map .str)

theorem exists_reads_of_passes {allowBase : Bool} {spot spot' : Spot}
    (hpresets : Validation.PassesPresets presets)
    (htags : Passes (Validation.checkTags allowBase spot (e.record.memberOrNull "tags")))
    (hoptions : Passes (Validation.checkOptions presets spot' (e.record.memberOrNull "options"))) :
    ∃ tokens os, e.Reads presets tokens os := by
  have hsound := soundTags_of_passes htags
  have hlist : (e.record.memberOrNull "tags").isNull = true ∨
      (e.record.memberOrNull "tags").asList?.isSome = true := by
    rcases hsound.kept with ⟨hnull, -⟩ | hlist
    · exact .inl (by rw [hnull]; rfl)
    · exact .inr (by rw [hlist]; rfl)
  obtain ⟨as, os, has, hos⟩ := Validation.exists_options hpresets.clean hoptions.1
  refine ⟨_, os, ?_, fun token htoken => (hsound.sound token htoken).readable, ?_⟩
  · rw [Entry.tokens, itemsOf_given hlist]
    rfl
  · rw [Entry.options, has, eq_map_of_mapM_convert? hos]

theorem record_mem_stepRecords (h : payload.Checked) (he : e ∈ stepEntries payload) :
    e.record ∈ Content.stepRecords payload :=
  map_record_stepEntries h ▸ List.mem_map_of_mem he

theorem record_mem_patchRecords (h : payload.Checked) (he : e ∈ patchEntries payload) :
    e.record ∈ Content.patchRecords payload :=
  map_record_patchEntries h ▸ List.mem_map_of_mem he

theorem exists_reads (h : payload.Checked) (he : e ∈ entriesIn payload) :
    ∃ tokens os, e.Reads payload.presets tokens os := by
  have hpresets := Validation.passesPresets_of_findings h.passes
  rcases mem_entriesIn_iff.mp he with he | he
  · obtain ⟨id, spot, -, -, -, hsub⟩ :=
      Validation.exists_checkPlainStep h.passes.1 (record_mem_stepRecords h he)
    have hstep := h.passes.mono hsub
    simp only [Validation.checkPlainStep, Validation.passes_append] at hstep
    obtain ⟨⟨⟨-, htags⟩, -⟩, hoptions⟩ := hstep
    exact exists_reads_of_passes hpresets htags hoptions
  · obtain ⟨spot, key, target, hsub⟩ :=
      Validation.exists_checkPatch h.passes.1 (record_mem_patchRecords h he)
    have hpatch := h.passes.mono hsub
    obtain ⟨t, -, -, -, hcheck⟩ := Validation.checkPatch_eq hpatch.1
    rw [hcheck, Validation.passes_patchTarget] at hpatch
    simp only [Validation.passes_append] at hpatch
    obtain ⟨⟨⟨htags, -⟩, hoptions⟩, -⟩ := hpatch
    exact exists_reads_of_passes hpresets htags hoptions

/-! ## Entries of built content -/

/-- The entries that are no patches are the drafts of the steps, in order. -/
theorem forall₂_stepEntries (h : Content.build source payload = .ok c) :
    List.Forall₂ (fun e s => stepOf payload.presets source e.record = .ok (draftOf s))
      (stepEntries payload) c.steps := by
  have hrecords := (Content.drafts_of_build h).1
  rwa [← map_record_stepEntries (Content.checked_of_build h), List.forall₂_map_left_iff] at hrecords

theorem forall₂_patchEntries (h : Content.build source payload = .ok c) :
    List.Forall₂ (fun e p => patchOf payload.presets source e.record = .ok (draftOfPatch p))
      (patchEntries payload) c.patches := by
  have hrecords := (Content.drafts_of_build h).2
  rwa [← map_record_patchEntries (Content.checked_of_build h),
    List.forall₂_map_left_iff] at hrecords

theorem stepOf_eq_ok {a : AuthoredStep} (h : stepOf presets source v = .ok a) :
    v.memberOrNull "id" = a.id ∧ declarationsOf (v.memberOrNull "vars") = .ok a.vars ∧
      optionsOf presets (v.memberOrNull "options") = .ok a.options ∧
      ((v.memberOrNull "text").given?).getD (.str "") = a.text ∧
      (v.memberOrNull "log").given? = a.log := by
  simp only [stepOf, bind_eq_ok_iff, liftFault_eq_ok_iff, pure, Except.pure, Except.ok.injEq] at h
  obtain ⟨id, hid, vars, hvars, options, hoptions, rfl⟩ := h
  exact ⟨memberOrNull_of_idOf hid, hvars, hoptions, rfl, rfl⟩

theorem patchOf_eq_ok {a : AuthoredPatch} (h : patchOf presets source v = .ok a) :
    declarationsOf (v.memberOrNull "vars") = .ok a.vars ∧
      optionsOf presets (v.memberOrNull "options") = .ok a.options ∧
      textChangeOf (v.memberOrNull "text") = a.text := by
  unfold patchOf at h
  split at h
  · contradiction
  · simp only [bind_eq_ok_iff, liftFault_eq_ok_iff, pure, Except.pure, Except.ok.injEq] at h
    obtain ⟨target, -, options, hoptions, vars, hvars, rfl⟩ := h
    exact ⟨hvars, hoptions, rfl⟩

theorem Entry.options_eq {os : List StepOption}
    (h : optionsOf presets (e.record.memberOrNull "options") = .ok (os.map (OptionOf.map .str))) :
    e.options presets = os.map (OptionOf.map .str) := by
  rw [Entry.options, h]

end Lint

end Questline
