import Questline.Content.Load
import Questline.Proofs.Attempt
import Questline.Proofs.Json.PairTable
import Mathlib.Data.List.Induction

/-!
# What a merge gathers

A merge without errors has read every quest file.  Its steps are the entries
with an id that is given, its patches the entries with the id of a patch, both
in the order of the files, and its presets are those of the files, the first of
each name.
-/

namespace Questline

namespace Merge

/-! ## What the files hold -/

def topPresets (quest : Json) : PairTable :=
  match PairTable.ofJson (((quest.memberOrNull "option_presets").given?).getD (.obj [])) with
  | .ok presets => presets
  | .error _ => []

section

variable (files : FileTree) (directory : FilePath)

/-- The value of a quest file. -/
def questIn (name : String) : Json :=
  match files.readValue (directory.child name) with
  | .ok v => v
  | .error _ => .null

/-- The value of a file of settings, which may be missing. -/
def settingIn (name : String) : Json :=
  match files.readValue (directory.child name) with
  | .ok v => v
  | .error _ => .obj []

def entriesIn (name : String) : List Json := Payload.stepEntries (questIn files directory name)

/-- The presets of a quest file: those at its top, overridden by those of its entries. -/
def presetsIn (name : String) : PairTable :=
  Payload.addPresets (topPresets (questIn files directory name)) (entriesIn files directory name)

/-- The presets of several quest files, the first of each name. -/
def presetsOf (names : List String) : PairTable :=
  names.foldl (fun presets name => presets.supplement (presetsIn files directory name)) []

end

/-- An entry that is taken for a step. -/
def isStepEntry (v : Json) : Bool := (v.memberOrNull "id").isGiven && !Content.isPatchEntry v

/-- The patch record that an entry becomes. -/
def recordOf (v : Json) : Json :=
  .obj (("target", patchTargetOf (v.memberOrNull "id")) :: keptMembers v)

variable {files : FileTree} {directory : FilePath} {file name : String} {names : List String}
  {g g' g'' : Gathered} {v quest : Json} {xs ys entries : List Json} {presets : PairTable}

theorem presetsOf_append :
    presetsOf files directory (names ++ [name]) =
      (presetsOf files directory names).supplement (presetsIn files directory name) := by
  simp [presetsOf]

theorem distinct_presetsOf : (presetsOf files directory names).Distinct := by
  induction names using List.reverseRecOn with
  | nil => exact .nil
  | append_singleton names name ih =>
      rw [presetsOf_append]
      exact ih.supplement _

/-! ## Entries -/

/-- Entries have been taken in, and nothing else has changed. -/
structure Takes (entries : List Json) (g g' : Gathered) : Prop where
  steps : g'.steps = g.steps ++ entries.filter isStepEntry
  records : (g'.patches.map fun p => Json.obj p.record) =
    (g.patches.map fun p => Json.obj p.record) ++ (entries.filter Content.isPatchEntry).map recordOf
  presets : g'.presets = g.presets
  errors : g'.errors = g.errors

theorem Takes.trans (h : Takes xs g g') (h' : Takes ys g' g'') : Takes (xs ++ ys) g g'' where
  steps := by rw [h'.steps, h.steps, List.filter_append, List.append_assoc]
  records := by
    rw [h'.records, h.records, List.filter_append, List.map_append, List.append_assoc]
  presets := h'.presets.trans h.presets
  errors := h'.errors.trans h.errors

theorem isPatchEntry_eq_true_iff :
    Content.isPatchEntry v = true ↔ ∃ id, v.memberOrNull "id" = .str id ∧ isPatchId id = true := by
  unfold Content.isPatchEntry
  cases v.memberOrNull "id" <;> simp [Json.asText?]

theorem not_isBlankText_of_isPatchId {id : String} (h : isPatchId id = true) :
    Text.isBlankText id = false := by
  unfold isPatchId Text.leads at h
  obtain ⟨rest, hrest⟩ := Option.isSome_iff_exists.mp h
  rw [Text.afterLead?_eq_some] at hrest
  rw [Text.isBlankText, hrest, List.all_append, Bool.and_eq_false_iff]
  exact .inl (by decide)

theorem isGiven_of_not_isBlankText {s : String} (h : Text.isBlankText s = false) :
    (Json.str s).isGiven = true := by
  have hne : s ≠ "" := by
    rintro rfl
    contradiction
  simpa [Json.isGiven] using hne

theorem isGiven_of_isPatchId {id : String} (h : isPatchId id = true) :
    (Json.str id).isGiven = true :=
  isGiven_of_not_isBlankText (not_isBlankText_of_isPatchId h)

theorem addEntry_of_patch {id : String} (hid : v.memberOrNull "id" = .str id)
    (hlead : isPatchId id = true) :
    addEntry file g v = { g with patches := g.patches ++
      [⟨file, patchTarget id, ("target", .str (patchTarget id)) :: keptMembers v⟩] } := by
  simp [addEntry, hid, Json.given?, isGiven_of_isPatchId hlead, hlead]

theorem addEntry_of_step (h : isStepEntry v = true) :
    addEntry file g v = { g with steps := g.steps ++ [v] } := by
  obtain ⟨hgiven, hplain⟩ := Bool.and_eq_true_iff.mp h
  rw [Bool.not_eq_true'] at hplain
  unfold Content.isPatchEntry at hplain
  rw [addEntry, Json.given?, if_pos hgiven]
  cases hid : v.memberOrNull "id" with
  | str id =>
      have hlead : isPatchId id = false := by simpa [hid, Json.asText?] using hplain
      simp [hlead]
  | _ => rfl

theorem addEntry_of_not_isGiven (h : (v.memberOrNull "id").isGiven = false) :
    addEntry file g v = g := by
  simp [addEntry, Json.given?, h]

theorem takes_addEntry (file : String) (g : Gathered) (v : Json) :
    Takes [v] g (addEntry file g v) := by
  cases hpatch : Content.isPatchEntry v with
  | true =>
      have hstep : isStepEntry v = false := by simp [isStepEntry, hpatch]
      obtain ⟨id, hid, hlead⟩ := isPatchEntry_eq_true_iff.mp hpatch
      rw [addEntry_of_patch hid hlead]
      constructor <;> simp [hstep, hpatch, recordOf, hid, patchTargetOf]
  | false =>
      cases hgiven : (v.memberOrNull "id").isGiven with
      | true =>
          have hstep : isStepEntry v = true := by simp [isStepEntry, hpatch, hgiven]
          rw [addEntry_of_step hstep]
          constructor <;> simp [hstep, hpatch]
      | false =>
          have hstep : isStepEntry v = false := by simp [isStepEntry, hgiven]
          rw [addEntry_of_not_isGiven hgiven]
          constructor <;> simp [hstep, hpatch]

theorem takes_foldl_addEntry (file : String) (g : Gathered) (entries : List Json) :
    Takes entries g (entries.foldl (addEntry file) g) := by
  induction entries generalizing g with
  | nil => exact ⟨by simp, by simp, rfl, rfl⟩
  | cons v entries ih => exact (takes_addEntry file g v).trans (ih _)

/-! ## Presets -/

theorem addPreset_eq {preset : Json × Json} (h : (addPreset file g preset).errors = []) :
    g.errors = [] ∧
      addPreset file g preset = { g with presets := g.presets.supplement [preset] } := by
  unfold addPreset at h ⊢
  cases hknown : g.presets.get? preset.1 with
  | none =>
      rw [hknown] at h
      exact ⟨h, by simp [PairTable.supplement, hknown]⟩
  | some known =>
      rw [hknown] at h
      dsimp only at h ⊢
      split at h
      · next halike =>
          rw [if_pos halike]
          exact ⟨h, by simp [PairTable.supplement, hknown]⟩
      · exact absurd h (by simp)

theorem foldl_addPreset_eq (h : (presets.foldl (addPreset file) g).errors = []) :
    g.errors = [] ∧
      presets.foldl (addPreset file) g = { g with presets := g.presets.supplement presets } := by
  induction presets generalizing g with
  | nil => exact ⟨h, rfl⟩
  | cons preset presets ih =>
      -- an error stays, so there was none before either
      obtain ⟨herrors, hrest⟩ := ih h
      obtain ⟨herrors, hfirst⟩ := addPreset_eq herrors
      refine ⟨herrors, ?_⟩
      rw [List.foldl_cons, hrest, hfirst]
      rfl

/-! ## Files -/

/-- The quest files with the given names have been taken in. -/
structure Gathers (files : FileTree) (directory : FilePath) (names : List String) (g : Gathered) :
    Prop where
  steps : g.steps = (names.flatMap (entriesIn files directory)).filter isStepEntry
  records : (g.patches.map fun p => Json.obj p.record) =
    ((names.flatMap (entriesIn files directory)).filter Content.isPatchEntry).map recordOf
  presets : g.presets = presetsOf files directory names

theorem filePresets_eq_ok (h : filePresets quest entries = .ok presets) :
    presets = Payload.addPresets (topPresets quest) entries := by
  rw [filePresets, bind_eq_ok_iff] at h
  obtain ⟨top, htop, h⟩ := h
  obtain rfl := Except.ok.inj h
  simp [topPresets, htop]

theorem addQuest_eq_ok (h : addQuest file g quest = .ok g') (herrors : g'.errors = []) :
    let presets := Payload.addPresets (topPresets quest) (Payload.stepEntries quest)
    g.errors = [] ∧ Takes (Payload.stepEntries quest)
      { g with presets := g.presets.supplement presets } g' := by
  intro presets
  unfold addQuest at h
  cases hlist : (quest.memberOrNull "steps").asList? with
  | none =>
      rw [hlist] at h
      obtain rfl := Except.ok.inj h
      exact absurd herrors (by simp)
  | some entries =>
      have hentries : Payload.stepEntries quest = entries := by simp [Payload.stepEntries, hlist]
      rw [hentries]
      simp only [hlist] at h
      rw [bind_eq_ok_iff] at h
      obtain ⟨own, hown, h⟩ := h
      obtain rfl : own = presets := by rw [filePresets_eq_ok hown, ← hentries]
      obtain rfl := Except.ok.inj h
      have htakes := takes_foldl_addEntry file (presets.foldl (addPreset file) g) entries
      obtain ⟨hbefore, hfold⟩ := foldl_addPreset_eq (htakes.errors.symm.trans herrors)
      rw [hfold] at htakes
      refine ⟨hbefore, ?_⟩
      rw [hfold]
      exact ⟨htakes.steps, htakes.records, htakes.presets, htakes.errors⟩

theorem lift_eq_ok_iff {α : Type} {x : Except Fault α} {a : α} : lift x = .ok a ↔ x = .ok a := by
  cases x <;> simp [lift]

theorem readOr_eq_ok {v : Json} (h : readOr files directory name = .ok (.ok v)) :
    files.readValue (directory.child name) = .ok v := by
  unfold readOr at h
  cases hread : files.readValue (directory.child name) with
  | ok w =>
      rw [hread] at h
      exact congrArg _ (Except.ok.inj (Except.ok.inj h))
  | error f =>
      rw [hread] at h
      cases hreport : f.report <;> simp [lift, Except.map, hreport] at h

theorem addFile_eq_ok (h : addFile files directory g name = .ok g') (herrors : g'.errors = []) :
    g.errors = [] ∧ Takes (entriesIn files directory name)
      { g with presets := g.presets.supplement (presetsIn files directory name) } g' := by
  rw [addFile, bind_eq_ok_iff] at h
  obtain ⟨read, hread, h⟩ := h
  cases read with
  | error p =>
      obtain rfl := Except.ok.inj h
      exact absurd herrors (by simp)
  | ok quest =>
      have hquest : questIn files directory name = quest := by
        rw [questIn, readOr_eq_ok hread]
      have hadded : addQuest name g quest = .ok g' := lift_eq_ok_iff.mp h
      rw [presetsIn, entriesIn, hquest]
      exact addQuest_eq_ok hadded herrors

/-- One more file. -/
theorem Gathers.addFile (hg : Gathers files directory names g)
    (h : addFile files directory g name = .ok g') (herrors : g'.errors = []) :
    Gathers files directory (names ++ [name]) g' := by
  obtain ⟨-, htakes⟩ := addFile_eq_ok h herrors
  constructor
  · rw [htakes.steps, hg.steps]
    simp
  · rw [htakes.records, hg.records]
    simp
  · rw [htakes.presets, hg.presets, presetsOf_append]

theorem errors_eq_nil_of_foldlM (h : names.foldlM (Merge.addFile files directory) g = .ok g')
    (herrors : g'.errors = []) : g.errors = [] := by
  induction names generalizing g with
  | nil =>
      obtain rfl := Except.ok.inj h
      exact herrors
  | cons name names ih =>
      rw [List.foldlM_cons, bind_eq_ok_iff] at h
      obtain ⟨between, hfirst, hrest⟩ := h
      exact (addFile_eq_ok hfirst (ih hrest)).1

theorem Gathers.foldlM {more : List String} (hg : Gathers files directory names g)
    (h : more.foldlM (Merge.addFile files directory) g = .ok g') (herrors : g'.errors = []) :
    Gathers files directory (names ++ more) g' := by
  induction more generalizing names g with
  | nil =>
      obtain rfl := Except.ok.inj h
      rwa [List.append_nil]
  | cons name more ih =>
      rw [List.foldlM_cons, bind_eq_ok_iff] at h
      obtain ⟨between, hfirst, hrest⟩ := h
      have hnext := hg.addFile hfirst (errors_eq_nil_of_foldlM hrest herrors)
      have hall := ih hnext hrest
      rwa [List.append_assoc] at hall

/-! ## The whole merge -/

theorem exists_readValue_eq_error {path : FilePath} (h : files.probe path = .ok none) :
    ∃ f, files.readValue path = .error f := by
  unfold FileTree.probe at h
  unfold FileTree.readValue FileTree.read
  cases hentry : files.entry path with
  | error f => exact ⟨_, rfl⟩
  | ok e =>
      rw [hentry] at h
      obtain rfl := Except.ok.inj h
      exact ⟨_, rfl⟩

theorem readSetting_eq_ok (h : readSetting files directory name = .ok (v, [])) :
    settingIn files directory name = v := by
  unfold readSetting at h
  cases hprobe : files.probe (directory.child name) with
  | error f =>
      rw [hprobe] at h
      contradiction
  | ok found =>
      rw [hprobe] at h
      cases found with
      | none =>
          obtain rfl : Json.obj [] = v := congrArg Prod.fst (Except.ok.inj h)
          obtain ⟨f, hread⟩ := exists_readValue_eq_error hprobe
          rw [settingIn, hread]
      | some e =>
          dsimp only at h
          rw [bind_eq_ok_iff] at h
          obtain ⟨read, hread, h⟩ := h
          cases read with
          | ok w =>
              obtain rfl : w = v := congrArg Prod.fst (Except.ok.inj h)
              rw [settingIn, readOr_eq_ok hread]
          | error p => cases h

/-- A merge without errors has the settings as they are, and has taken in every quest file. -/
theorem exists_gathers_of_mergeDirectory {merged : Merge}
    (h : mergeDirectory files directory = .ok merged) (herrors : merged.report.errors = []) :
    ∃ g, Gathers files directory (questNames files directory) g ∧
      merged.payload = payloadOf (settingIn files directory configFile)
        (settingIn files directory locationsFile) g := by
  rw [mergeDirectory, bind_eq_ok_iff] at h
  obtain ⟨⟨config, configErrors⟩, hconfig, h⟩ := h
  rw [bind_eq_ok_iff] at h
  obtain ⟨⟨locations, locationErrors⟩, hlocations, h⟩ := h
  rw [bind_eq_ok_iff] at h
  obtain ⟨g, hgathered, h⟩ := h
  rw [lift_eq_ok_iff] at h
  unfold finish at h
  dsimp only at h
  split at h
  · contradiction
  · obtain rfl := Except.ok.inj h
    simp only [List.append_eq_nil_iff] at herrors
    obtain ⟨⟨⟨rfl, rfl⟩, hg⟩, -⟩ := herrors
    have hgathers : Gathers files directory ([] ++ questNames files directory) g :=
      Gathers.foldlM ⟨rfl, rfl, rfl⟩ hgathered hg
    refine ⟨g, hgathers, ?_⟩
    rw [readSetting_eq_ok hconfig, readSetting_eq_ok hlocations]

end Merge

end Questline
