import Questline.Proofs.Content.Consolidation
import Questline.Proofs.Files.Documents

/-!
# When files can be merged

A merge stops at a file that no document can be read from for another reason
than its syntax, at presets that cannot be listed, and at an id that cannot be
looked up.  In every other case it comes about, its errors name each file that
is no document or no quest, and the directory is refused with them.
-/

namespace Questline

/-- Whether a problem is one of a file as a whole. -/
def MergeProblem.isAboutFile : MergeProblem → Bool
  | unreadable _ _ => true
  | notAQuest _ => true
  | _ => false

namespace Merge

open Validation

/-- Whatever stops a document from being read can be reported. -/
def Reportable (files : FileTree) (path : FilePath) : Prop :=
  ∀ f ∈ [DocumentFault.undecodable, .hugeInteger, .tooDeep], files.readValue path ≠ .error f

/-- The presets at the top of a quest are an object, or pairs of a name and a value; they are
looked at only if there is a list of steps. -/
def ListsPresets (quest : Json) : Prop :=
  (quest.memberOrNull "steps").asList? ≠ none →
    ∃ presets, PairTable.ofJson (((quest.memberOrNull "option_presets").given?).getD (.obj [])) =
      .ok presets

section

variable (files : FileTree) (directory : FilePath)

/-- Nothing in a directory stops its merge. -/
structure Mergeable : Prop where
  settings : ∀ name ∈ [configFile, locationsFile], ∃ found,
    files.probe (directory.child name) = .ok found ∧
      (found ≠ none → Reportable files (directory.child name))
  quests : ∀ name ∈ questNames files directory, Reportable files (directory.child name) ∧
    ListsPresets (questIn files directory name)
  ids : ∀ v ∈ questEntries files directory, isStepEntry v = true →
    (v.memberOrNull "id").isContainer = false

/-- What is wrong with a file of settings as a whole. -/
def settingProblem? (name : String) : Option MergeProblem :=
  match files.probe (directory.child name), files.readValue (directory.child name) with
  | .ok (some _), .error f => f.report.toOption.map (.unreadable name)
  | _, _ => none

/-- What is wrong with a quest file as a whole. -/
def questProblem? (name : String) : Option MergeProblem :=
  match files.readValue (directory.child name) with
  | .error f => f.report.toOption.map (.unreadable name)
  | .ok quest =>
    if (quest.memberOrNull "steps").asList?.isSome then none else some (.notAQuest name)

/-- The files that are no document or no quest, in the order in which they are read. -/
def fileProblems : List MergeProblem :=
  (settingProblem? files directory configFile).toList ++
    (settingProblem? files directory locationsFile).toList ++
    (questNames files directory).filterMap (questProblem? files directory)

end

variable {files : FileTree} {directory : FilePath} {file name : String} {names : List String}
  {g g' : Gathered} {v quest : Json} {presets : PairTable}

/-! ## Reading -/

theorem entry_of_probe {path : FilePath} {e : FileEntry} (h : files.probe path = .ok (some e)) :
    files.entry path = .ok (some e) := by
  unfold FileTree.probe at h
  split at h
  · contradiction
  · cases h
  · next found hfound =>
      rw [hfound, h]

theorem exists_entry_of_isFile {path : FilePath} (h : files.isFile path = true) :
    ∃ e, files.entry path = .ok (some e) := by
  unfold FileTree.isFile FileTree.entry? at h
  split at h
  · next e hentry =>
      cases e with
      | none => contradiction
      | some e => exact ⟨e, hentry⟩
  · contradiction

/-- What stands at a path is a document, or it is said why not. -/
theorem exists_report_iff {path : FilePath} {f : DocumentFault} {e : FileEntry}
    (hentry : files.entry path = .ok (some e)) (h : files.readValue path = .error f) :
    (∃ why, f.report = .ok why) ↔ Reportable files path := by
  unfold Reportable
  rw [h]
  cases f with
  | file g =>
      have hfolder : g = ⟨.isAFolder, path⟩ := by
        unfold FileTree.readValue FileTree.read at h
        rw [hentry] at h
        cases e with
        | folder =>
            simp only [bind, Except.bind, throw, throwThe, MonadExceptOf.throw] at h
            cases h
            rfl
        | file content =>
            simp only [bind, Except.bind, pure, Except.pure] at h
            exact absurd h (content.value_ne_file g)
      subst hfolder
      simp [DocumentFault.report, FileFault.message?, FileFaultKind.notice?]
  | malformed => simp [DocumentFault.report]
  | undecodable => simp [DocumentFault.report]
  | hugeInteger => simp [DocumentFault.report]
  | tooDeep => simp [DocumentFault.report]

theorem readOr_eq_error {p : MergeProblem} (h : readOr files directory name = .ok (.error p)) :
    ∃ f why, files.readValue (directory.child name) = .error f ∧ f.report = .ok why ∧
      p = .unreadable name why := by
  unfold readOr at h
  cases hread : files.readValue (directory.child name) with
  | ok v =>
      rw [hread] at h
      cases h
  | error f =>
      rw [hread] at h
      cases hreport : f.report with
      | error fault => simp [lift, Except.map, hreport] at h
      | ok why =>
          simp only [lift, Except.map, hreport, Except.ok.injEq, Except.error.injEq] at h
          exact ⟨f, why, rfl, hreport, h.symm⟩

theorem exists_readOr_eq_ok_iff {e : FileEntry}
    (hentry : files.entry (directory.child name) = .ok (some e)) :
    (∃ read, readOr files directory name = .ok read) ↔
      Reportable files (directory.child name) := by
  unfold readOr
  cases hread : files.readValue (directory.child name) with
  | ok v => simp [Reportable, hread]
  | error f =>
      rw [← exists_report_iff hentry hread]
      cases hreport : f.report <;> simp [lift, Except.map, hreport]

/-! ## Which files stop a merge -/

theorem exists_addQuest_eq_ok_iff :
    (∃ g', addQuest file g quest = .ok g') ↔ ListsPresets quest := by
  unfold addQuest ListsPresets
  cases (quest.memberOrNull "steps").asList? with
  | none => simp [pure, Except.pure]
  | some entries =>
      unfold filePresets
      simp [exists_bind_eq_ok_iff, pure, Except.pure]

theorem exists_lift_eq_ok_iff {α : Type} {x : Except Fault α} :
    (∃ a, lift x = .ok a) ↔ ∃ a, x = .ok a :=
  exists_congr fun _ => lift_eq_ok_iff

theorem exists_addFile_eq_ok_iff {e : FileEntry}
    (hentry : files.entry (directory.child name) = .ok (some e)) (g : Gathered) :
    (∃ g', addFile files directory g name = .ok g') ↔
      Reportable files (directory.child name) ∧ ListsPresets (questIn files directory name) := by
  unfold addFile
  rw [exists_bind_eq_ok_iff, ← exists_readOr_eq_ok_iff hentry]
  constructor
  · rintro ⟨read, hread, hadded⟩
    refine ⟨⟨read, hread⟩, ?_⟩
    cases read with
    | ok quest =>
        rw [questIn, readOr_eq_ok hread]
        exact exists_addQuest_eq_ok_iff.mp (exists_lift_eq_ok_iff.mp hadded)
    | error p =>
        obtain ⟨f, -, hvalue, -, -⟩ := readOr_eq_error hread
        rw [questIn, hvalue]
        exact fun hsteps => absurd rfl hsteps
  · rintro ⟨⟨read, hread⟩, hlists⟩
    refine ⟨read, hread, ?_⟩
    cases read with
    | ok quest =>
        rw [questIn, readOr_eq_ok hread] at hlists
        exact exists_lift_eq_ok_iff.mpr (exists_addQuest_eq_ok_iff.mpr hlists)
    | error p => exact ⟨_, rfl⟩

theorem exists_readSetting_eq_ok_iff :
    (∃ read, readSetting files directory name = .ok read) ↔ ∃ found,
      files.probe (directory.child name) = .ok found ∧
        (found ≠ none → Reportable files (directory.child name)) := by
  unfold readSetting
  cases hprobe : files.probe (directory.child name) with
  | error f => simp [throw, throwThe, MonadExceptOf.throw]
  | ok found =>
      cases found with
      | none => simp [pure, Except.pure]
      | some e =>
          simp only [Except.ok.injEq, exists_eq_left', ne_eq, reduceCtorEq, not_false_eq_true,
            forall_const]
          rw [exists_bind_eq_ok_iff, ← exists_readOr_eq_ok_iff (entry_of_probe hprobe)]
          constructor
          · rintro ⟨read, hread, -⟩
            exact ⟨read, hread⟩
          · rintro ⟨read, hread⟩
            refine ⟨read, hread, ?_⟩
            cases read <;> exact ⟨_, rfl⟩

theorem exists_finish_eq_ok_iff {config locations : Json} {errors : List MergeProblem} :
    (∃ merged, finish config locations errors g = .ok merged) ↔
      ∀ v ∈ g.steps, (v.memberOrNull "id").isContainer = false := by
  unfold finish idsOf
  dsimp only
  split
  · next hcontainer =>
      simp only [List.any_map, List.any_eq_true, Function.comp_apply] at hcontainer
      obtain ⟨v, hv, hid⟩ := hcontainer
      constructor
      · rintro ⟨merged, hmerged⟩
        contradiction
      · intro hall
        rw [hall v hv] at hid
        contradiction
  · next hcontainer => exact iff_of_true ⟨_, rfl⟩ (by simpa using hcontainer)

/-! ## What a merge notes -/

/-- Entries have been taken in, and what is wrong with their file has been noted. -/
structure Notes (problem : Option MergeProblem) (entries : List Json) (g g' : Gathered) : Prop where
  steps : g'.steps = g.steps ++ entries.filter isStepEntry
  problems : g'.errors.filter MergeProblem.isAboutFile =
    g.errors.filter MergeProblem.isAboutFile ++ problem.toList

theorem notes_foldl_addPreset (presets : PairTable) (g : Gathered) :
    Notes none [] g (presets.foldl (addPreset file) g) := by
  induction presets generalizing g with
  | nil => exact ⟨by simp, by simp⟩
  | cons preset presets ih =>
      have hfirst : Notes none [] g (addPreset file g preset) := by
        unfold addPreset
        split
        · exact ⟨by simp, by simp⟩
        · split
          · exact ⟨by simp, by simp⟩
          · exact ⟨by simp, by simp [MergeProblem.isAboutFile]⟩
      have hrest := ih (addPreset file g preset)
      exact ⟨by rw [List.foldl_cons, hrest.steps, hfirst.steps]; simp,
        by rw [List.foldl_cons, hrest.problems, hfirst.problems]; simp⟩

theorem notes_addQuest (h : addQuest file g quest = .ok g') :
    Notes (if (quest.memberOrNull "steps").asList?.isSome then none else some (.notAQuest file))
      (Payload.stepEntries quest) g g' := by
  unfold addQuest at h
  cases hlist : (quest.memberOrNull "steps").asList? with
  | none =>
      rw [hlist] at h
      obtain rfl := Except.ok.inj h
      constructor
      · simp [Payload.stepEntries, hlist]
      · simp [MergeProblem.isAboutFile]
  | some entries =>
      simp only [hlist] at h
      rw [bind_eq_ok_iff] at h
      obtain ⟨presets, -, h⟩ := h
      obtain rfl := Except.ok.inj h
      have hpresets : Notes none [] g (presets.foldl (addPreset file) g) :=
        notes_foldl_addPreset presets g
      have hentries := takes_foldl_addEntry file (presets.foldl (addPreset file) g) entries
      have hall : Payload.stepEntries quest = entries := by simp [Payload.stepEntries, hlist]
      constructor
      · simpa [hall, hpresets.steps] using hentries.steps
      · simpa [hentries.errors] using hpresets.problems

theorem notes_addFile (h : addFile files directory g name = .ok g') :
    Notes (questProblem? files directory name) (entriesIn files directory name) g g' := by
  rw [addFile, bind_eq_ok_iff] at h
  obtain ⟨read, hread, h⟩ := h
  cases read with
  | ok quest =>
      have hadded : addQuest name g quest = .ok g' := lift_eq_ok_iff.mp h
      rw [questProblem?, entriesIn, questIn, readOr_eq_ok hread]
      exact notes_addQuest hadded
  | error p =>
      obtain ⟨f, why, hvalue, hreport, rfl⟩ := readOr_eq_error hread
      obtain rfl := Except.ok.inj h
      rw [questProblem?, entriesIn, questIn, hvalue]
      dsimp only
      rw [hreport]
      constructor
      · simp [Payload.stepEntries, Json.memberOrNull, Json.member?, Json.asObject?, Json.asList?]
      · simp [MergeProblem.isAboutFile, Except.toOption]

/-- What is taken in and noted over all quest files. -/
theorem notes_foldlM (h : names.foldlM (addFile files directory) g = .ok g') :
    g'.steps = g.steps ++ (names.flatMap (entriesIn files directory)).filter isStepEntry ∧
      g'.errors.filter MergeProblem.isAboutFile = g.errors.filter MergeProblem.isAboutFile ++
        names.filterMap (questProblem? files directory) := by
  induction names generalizing g with
  | nil =>
      obtain rfl := Except.ok.inj h
      simp
  | cons name names ih =>
      rw [List.foldlM_cons, bind_eq_ok_iff] at h
      obtain ⟨between, hfirst, hrest⟩ := h
      have hnotes := notes_addFile hfirst
      obtain ⟨hsteps, hproblems⟩ := ih hrest
      rw [hnotes.steps] at hsteps
      rw [hnotes.problems] at hproblems
      constructor
      · rw [hsteps]
        simp
      · rw [hproblems, List.append_assoc, List.filterMap_cons]
        cases questProblem? files directory name <;> simp

theorem snd_of_readSetting {read : Json × List MergeProblem}
    (h : readSetting files directory name = .ok read) :
    read.2 = (settingProblem? files directory name).toList := by
  unfold readSetting at h
  unfold settingProblem?
  cases hprobe : files.probe (directory.child name) with
  | error f =>
      rw [hprobe] at h
      contradiction
  | ok found =>
      rw [hprobe] at h
      cases found with
      | none =>
          obtain rfl := Except.ok.inj h
          rfl
      | some e =>
          dsimp only at h
          rw [bind_eq_ok_iff] at h
          obtain ⟨value, hvalue, h⟩ := h
          cases value with
          | ok v =>
              obtain rfl := Except.ok.inj h
              rw [readOr_eq_ok hvalue]
              rfl
          | error p =>
              obtain ⟨f, why, hread, hreport, rfl⟩ := readOr_eq_error hvalue
              obtain rfl := Except.ok.inj h
              rw [hread]
              dsimp only
              rw [hreport]
              rfl

/-! ## The whole merge -/

theorem exists_mergeDirectory_eq_ok_iff :
    (∃ merged, mergeDirectory files directory = .ok merged) ↔ Mergeable files directory := by
  have hquests : ∀ (g : Gathered), ∀ name ∈ questNames files directory,
      (∃ g', addFile files directory g name = .ok g') ↔
        Reportable files (directory.child name) ∧ ListsPresets (questIn files directory name) := by
    intro g name hname
    obtain ⟨e, hentry⟩ :=
      exists_entry_of_isFile (Bool.and_eq_true_iff.mp (List.mem_filter.mp hname).2).2
    exact exists_addFile_eq_ok_iff hentry g
  unfold mergeDirectory
  simp only [exists_bind_eq_ok_iff, exists_lift_eq_ok_iff, exists_finish_eq_ok_iff]
  constructor
  · rintro ⟨config, hconfig, locations, hlocations, g, hg, hids⟩
    refine ⟨?_, (exists_foldlM_eq_ok_iff hquests {}).mp ⟨g, hg⟩, ?_⟩
    · simp only [List.forall_mem_cons]
      exact ⟨exists_readSetting_eq_ok_iff.mp ⟨config, hconfig⟩,
        exists_readSetting_eq_ok_iff.mp ⟨locations, hlocations⟩, nofun⟩
    · intro v hv hstep
      apply hids
      rw [(notes_foldlM hg).1]
      exact List.mem_append_right _ (List.mem_filter.mpr ⟨hv, hstep⟩)
  · intro h
    obtain ⟨config, hconfig⟩ := exists_readSetting_eq_ok_iff.mpr (h.settings _ (.head _))
    obtain ⟨locations, hlocations⟩ :=
      exists_readSetting_eq_ok_iff.mpr (h.settings _ (.tail _ (.head _)))
    obtain ⟨g, hg⟩ := (exists_foldlM_eq_ok_iff hquests {}).mpr h.quests
    refine ⟨config, hconfig, locations, hlocations, g, hg, ?_⟩
    rw [(notes_foldlM hg).1]
    intro v hv
    obtain ⟨hmem, hstep⟩ := List.mem_filter.mp hv
    exact h.ids v hmem hstep

theorem isAboutFile_of_patchProblem? {ids : List Json} {patch : FiledPatch} {p : MergeProblem}
    (h : patchProblem? ids patch = some p) : p.isAboutFile = false := by
  unfold patchProblem? at h
  split at h
  · obtain rfl := Option.some.inj h
    rfl
  · split at h
    · contradiction
    · obtain rfl := Option.some.inj h
      rfl

theorem filter_settingProblem? (name : String) :
    (settingProblem? files directory name).toList.filter MergeProblem.isAboutFile =
      (settingProblem? files directory name).toList := by
  unfold settingProblem?
  split
  · next f _ _ =>
      cases f.report <;> rfl
  · rfl

theorem filter_errors_eq {merged : Merge} (h : mergeDirectory files directory = .ok merged) :
    merged.report.errors.filter MergeProblem.isAboutFile = fileProblems files directory := by
  rw [mergeDirectory, bind_eq_ok_iff] at h
  obtain ⟨config, hconfig, h⟩ := h
  rw [bind_eq_ok_iff] at h
  obtain ⟨locations, hlocations, h⟩ := h
  rw [bind_eq_ok_iff] at h
  obtain ⟨g, hg, h⟩ := h
  rw [lift_eq_ok_iff] at h
  unfold finish at h
  dsimp only at h
  split at h
  · contradiction
  · obtain rfl := Except.ok.inj h
    have hpatches : ((g.patches.filterMap (patchProblem? (idsOf g.steps))).filter
        fun p => !p.isWarning).filter MergeProblem.isAboutFile = [] := by
      simp only [List.filter_eq_nil_iff, List.mem_filter, List.mem_filterMap]
      rintro p ⟨⟨patch, -, hp⟩, -⟩
      rw [isAboutFile_of_patchProblem? hp]
      decide
    have hquests : g.errors.filter MergeProblem.isAboutFile =
        (questNames files directory).filterMap (questProblem? files directory) :=
      (notes_foldlM hg).2
    simp only [List.filter_append]
    rw [snd_of_readSetting hconfig, snd_of_readSetting hlocations, filter_settingProblem?,
      filter_settingProblem?, hquests, hpatches, List.append_nil, fileProblems]

theorem exists_load_eq_error (hfolder : files.probe directory = .ok (some .folder))
    (h : ¬ Mergeable files directory) :
    ∃ f, Content.load files directory = .error f ∧ f.contentMessage? = none := by
  rw [← exists_mergeDirectory_eq_ok_iff] at h
  rw [Content.load, hfolder]
  dsimp only
  rw [Content.loadDirectory]
  cases hmerge : mergeDirectory files directory with
  | ok merged => exact absurd ⟨merged, hmerge⟩ h
  | error f => cases f <;> exact ⟨_, rfl, rfl⟩

theorem load_of_errors {merged : Merge} (hfolder : files.probe directory = .ok (some .folder))
    (hmerge : mergeDirectory files directory = .ok merged) (herrors : merged.report.errors ≠ []) :
    Content.load files directory =
      .error (.content (.unmergeable directory.text merged.report.errorTexts)) := by
  rw [Content.load, hfolder]
  simp [Content.loadDirectory, hmerge, Content.liftMerge, herrors, bind, Except.bind, throw,
    throwThe, MonadExceptOf.throw]

theorem isPresetEntry_of_isStepEntry (h : isStepEntry v = true) :
    Payload.isPresetEntry v = false := by
  have hgiven := (Bool.and_eq_true_iff.mp h).1
  unfold Json.memberOrNull at hgiven
  cases hmember : v.member? "id" with
  | none =>
      rw [hmember] at hgiven
      contradiction
  | some w => simp [Payload.isPresetEntry, hmember]

/-- Content is not had from a step whose id is no text. -/
theorem load_ne_ok {merged : Merge} (hfolder : files.probe directory = .ok (some .folder))
    (hmerge : mergeDirectory files directory = .ok merged)
    (hv : v ∈ questEntries files directory) (hstep : isStepEntry v = true)
    (hid : (v.memberOrNull "id").asText? = none) (c : Content) :
    Content.load files directory ≠ .ok c := by
  intro hload
  by_cases herrors : merged.report.errors = []
  · obtain ⟨g, hg, hpayload⟩ := exists_gathers_of_mergeDirectory hmerge herrors
    rw [load_eq_build hfolder hmerge herrors] at hload
    have hbuild : Content.build (some directory.text) merged.payload = .ok c := by
      cases hbuilt : Content.build (some directory.text) merged.payload with
      | error f =>
          rw [hbuilt] at hload
          contradiction
      | ok built =>
          rw [hbuilt] at hload
          exact congrArg _ (Except.ok.inj hload)
    have hclean := (Content.built_of_build hbuild).passes.1
    have hentries := hclean.mono (entries_subset_findings merged.payload)
    have hmem : v ∈ merged.payload.entries := by
      rw [hpayload]
      change v ∈ g.steps
      rw [hg.steps]
      exact List.mem_filter.mpr ⟨hv, hstep⟩
    obtain ⟨i, hi⟩ := exists_clean_of_each hentries hmem
    obtain ⟨-, id, -, htext, -⟩ :=
      exists_id_of_checkStepEntry (isPresetEntry_of_isStepEntry hstep) hi
    rw [htext] at hid
    contradiction
  · rw [load_of_errors hfolder hmerge herrors] at hload
    contradiction

end Merge

open Merge

/-- The files of a directory are merged exactly if nothing in them stops the merge; otherwise
loading the directory ends without a refusal.  A merge that comes about names each file that is no
document or no quest, in the order in which the files are read; a directory with errors is refused
with all of them, and no content is had where a step has an id that is no text. -/
theorem merge_answers_iff {files : FileTree} {directory : FilePath}
    (hfolder : files.probe directory = .ok (some .folder)) :
    ((∃ merged, mergeDirectory files directory = .ok merged) ↔ Mergeable files directory) ∧
    (¬ Mergeable files directory →
      ∃ f, Content.load files directory = .error f ∧ f.contentMessage? = none) ∧
    ∀ merged, mergeDirectory files directory = .ok merged →
      merged.report.errors.filter MergeProblem.isAboutFile = fileProblems files directory ∧
      (merged.report.errors ≠ [] → Content.load files directory =
        .error (.content (.unmergeable directory.text merged.report.errorTexts))) ∧
      ∀ v ∈ questEntries files directory, isStepEntry v = true →
        (v.memberOrNull "id").asText? = none → ∀ c, Content.load files directory ≠ .ok c := by
  refine ⟨exists_mergeDirectory_eq_ok_iff, exists_load_eq_error hfolder, ?_⟩
  intro merged hmerge
  refine ⟨filter_errors_eq hmerge, load_of_errors hfolder hmerge, ?_⟩
  intro v hv hstep hid
  exact load_ne_ok hfolder hmerge hv hstep hid

/-- A directory with nothing but the given files. -/
def plainFiles (contents : List (String × FileContent)) : FileTree :=
  ⟨(["q"], .folder) :: contents.map fun c => (["q", c.1], .file c.2)⟩

def gateQuest : Json :=
  .obj [("steps", .arr [.obj [("id", .str "Gate"), ("text", .str "A gate.")]])]

/-- A good quest file between one that is no document and one that is no quest. -/
def mixedFiles : FileTree :=
  plainFiles [("cut.json", .text "\x7b"), ("gate.json", .document gateQuest),
    ("list.json", .document (.arr []))]

theorem merge_answers_for_mixed_files :
    mixedFiles.probe questDirectory = .ok (some .folder) ∧
      Mergeable mixedFiles questDirectory ∧
      ∃ merged, mergeDirectory mixedFiles questDirectory = .ok merged ∧
        merged.report.errors.filter MergeProblem.isAboutFile =
          [.unreadable "cut.json" "<json error>", .notAQuest "list.json"] ∧
        Content.load mixedFiles questDirectory =
          .error (.content (.unmergeable "q" ["cut.json: could not be read (<json error>).",
            "list.json: quest file must be an object with a 'steps' list."])) := by
  have hfolder : mixedFiles.probe questDirectory = .ok (some .folder) := rfl
  have hnames : questNames mixedFiles questDirectory =
      ["cut.json", "gate.json", "list.json"] := by
    rw [questNames_of_sorted rfl (by decide +kernel)]
    decide +kernel
  have hmerge : ∃ merged, mergeDirectory mixedFiles questDirectory = .ok merged ∧
      merged.report.errorTexts = ["cut.json: could not be read (<json error>).",
        "list.json: quest file must be an object with a 'steps' list."] := by
    rw [mergeDirectory, hnames]
    exact ⟨_, rfl, rfl⟩
  obtain ⟨merged, hmerged, htexts⟩ := hmerge
  obtain ⟨hiff, -, hanswers⟩ := merge_answers_iff hfolder
  obtain ⟨hproblems, hload, -⟩ := hanswers merged hmerged
  refine ⟨hfolder, hiff.mp ⟨merged, hmerged⟩, merged, hmerged, ?_, ?_⟩
  · rw [hproblems, fileProblems, hnames]
    rfl
  · have herrors : merged.report.errors ≠ [] := by
      intro hnone
      rw [MergeReport.errorTexts, hnone] at htexts
      contradiction
    rw [hload herrors, htexts]
    rfl

/-- Bytes that are no text, presets that are no pairs and an id that is a list stop the merge. -/
theorem merge_can_stop :
    Content.load (plainFiles [("gate.json", .bytes [255])]) questDirectory =
        .error (.content (.fault .undecodable)) ∧
      Content.load (plainFiles [("gate.json", .document
          (.obj [("steps", .arr []), ("option_presets", .int 5)]))]) questDirectory =
        .error (.content (.fault .wrongKind)) ∧
      Content.load (plainFiles [("gate.json", .document
          (.obj [("steps", .arr [.obj [("id", .arr [.int 1])]])]))]) questDirectory =
        .error (.content (.fault .wrongKind)) := by
  have hnames : ∀ content, questNames (plainFiles [("gate.json", content)]) questDirectory =
      ["gate.json"] := by
    intro content
    have hone : (plainFiles [("gate.json", content)]).namesIn questDirectory.location =
        ["gate.json"] := rfl
    have hplain : FilePath.IsPlain FilePath.nameLimit "gate.json" :=
      ⟨by decide, by decide, by decide⟩
    have hentry := FileTree.entry_child (t := plainFiles [("gate.json", content)])
      (p := questDirectory) rfl hplain (by decide)
    have hfile : (plainFiles [("gate.json", content)]).isFile
        (questDirectory.child "gate.json") = true := by
      rw [FileTree.isFile, FileTree.entry?, hentry]
      rfl
    rw [questNames_of_sorted rfl (by rw [hone]; exact List.pairwise_singleton _ _), hone]
    simp only [List.filter_cons, hfile, Bool.and_true, List.filter_nil]
    decide
  refine ⟨?_, ?_, ?_⟩
  · rw [Content.load, Content.loadDirectory, mergeDirectory, hnames]
    rfl
  · rw [Content.load, Content.loadDirectory, mergeDirectory, hnames]
    rfl
  · rw [Content.load, Content.loadDirectory, mergeDirectory, hnames]
    rfl

end Questline
