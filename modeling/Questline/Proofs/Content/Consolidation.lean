import Questline.Content.Load
import Questline.Proofs.Content.PatchSteps
import Questline.Proofs.Content.Sources
import Questline.Proofs.Files.Folder
import Questline.Proofs.Text.Sorting

/-!
# A directory as one payload

The quest files of a directory may be put together into one payload, with all
entries of all step lists as they stand.  Loading the directory comes to the
same as building that payload, as long as the merge leaves out no entry and no
member of a patch that the payload would be judged by.
-/

namespace Questline

open Merge Validation

section

variable (files : FileTree) (directory : FilePath)

def questEntries : List Json :=
  (questNames files directory).flatMap (entriesIn files directory)

def questPresets : PairTable := presetsOf files directory (questNames files directory)

/-- The one payload: the settings, the presets of all files, and every entry as it was written. -/
def consolidated : Payload where
  value := .obj [("config", settingIn files directory configFile),
    ("steps", .arr (questEntries files directory)),
    ("locations", settingIn files directory locationsFile),
    ("option_presets", .obj (questPresets files directory).written)]
  presets := Payload.addPresets (questPresets files directory) (questEntries files directory)

end

/-- Nothing in the files is left out by the merge without being looked at. -/
structure KeepsAll (files : FileTree) (directory : FilePath) : Prop where
  entries : ∀ v ∈ questEntries files directory,
    Payload.isPresetEntry v = true ∨ (v.memberOrNull "id").isGiven = true
  patches : ∀ v ∈ questEntries files directory, Content.isPatchEntry v = true → KeepsPatch v
  locations : IsKept (.obj []) (settingIn files directory locationsFile)
  presets : ∀ name ∈ questNames files directory, ∀ (s : String) (v : Json),
    (presetsIn files directory name).get? (.str s) = some v →
      (questPresets files directory).get? (.str s) = some v

/-- The outcomes of loading and building agree: both refuse what they are given, both fail alike, or
both have the same content, the sources of its records aside. -/
inductive Agrees : Except LoadFault Content → Except ContentFault Content → Prop where
  | built {c c' : Content} (h : c.unsourced = c'.unsourced) : Agrees (.ok c) (.ok c')
  | refused (errors errors' : List String) :
    Agrees (.error (.content (.invalid errors))) (.error (.invalid errors'))
  | failed (f : Fault) : Agrees (.error (.content (.fault f))) (.error (.fault f))

/-! ## Presets -/

section

variable {t presets : PairTable} {entries : List Json}

/-- What the preset entries of a list declare, one after the other. -/
def declaredPresets (entries : List Json) : Table Json :=
  (entries.filter Payload.isPresetEntry).flatMap Payload.ownPresets

theorem addPresets_eq_update (t : PairTable) (entries : List Json) :
    Payload.addPresets t entries = t.update (.ofTable (declaredPresets entries)) := by
  unfold Payload.addPresets declaredPresets
  generalize entries.filter Payload.isPresetEntry = declaring
  induction declaring generalizing t with
  | nil => rfl
  | cons v declaring ih =>
      rw [List.foldl_cons, ih, List.flatMap_cons]
      simp [PairTable.update, PairTable.ofTable]

theorem addPresets_append (t : PairTable) (xs ys : List Json) :
    Payload.addPresets t (xs ++ ys) = Payload.addPresets (Payload.addPresets t xs) ys := by
  simp [Payload.addPresets]

/-- Entries that declare what a table has already leave it as it is. -/
theorem addPresets_eq_self (h : t.Distinct)
    (hsame : ∀ (s : String) (v : Json),
      (Payload.addPresets presets entries).get? (.str s) = some v → t.get? (.str s) = some v) :
    Payload.addPresets t entries = t := by
  rw [addPresets_eq_update] at hsame ⊢
  have hthere : ∀ entry ∈ declaredPresets entries, t.get? (.str entry.1) ≠ none := by
    intro entry hentry hnone
    rcases PairTable.get?_update_cases entry.1 (declaredPresets entries) with ⟨v, hv⟩ | ⟨-, hne⟩
    · rw [hsame entry.1 v (hv presets)] at hnone
      contradiction
    · exact hne entry hentry rfl
  -- every name that is set is there already, so only values could change
  have hnames := (PairTable.SameNames.refl t).update hthere
  refine hnames.eq h fun s => ?_
  rcases PairTable.get?_update_cases s (declaredPresets entries) with ⟨v, hv⟩ | ⟨hold, -⟩
  · rw [hv t, hsame s v (hv presets)]
  · exact hold t

end

variable {files : FileTree} {directory : FilePath} {g : Gathered} {v : Json} {f : Finding}

theorem presets_consolidated (h : KeepsAll files directory) :
    (consolidated files directory).presets = questPresets files directory := by
  have hfile : ∀ name ∈ questNames files directory,
      Payload.addPresets (questPresets files directory) (entriesIn files directory name) =
        questPresets files directory := fun name hname =>
    addPresets_eq_self distinct_presetsOf (h.presets name hname)
  unfold consolidated questEntries
  dsimp only
  generalize questNames files directory = names at hfile
  induction names with
  | nil => rfl
  | cons name names ih =>
      rw [List.forall_mem_cons] at hfile
      rw [List.flatMap_cons, addPresets_append, hfile.1, ih hfile.2]

/-! ## Members of the merged payload -/

theorem get?_member (key other : String) (v : Json) :
    Table.get? other (member key v) = if key = other then v.given? else none := by
  unfold member Json.given?
  split <;> simp [Table.get?]

/-- The payload of the merge, once all quest files have been taken in. -/
def mergedPayload (files : FileTree) (directory : FilePath) (g : Gathered) : Payload :=
  payloadOf (settingIn files directory configFile) (settingIn files directory locationsFile) g

theorem entries_mergedPayload : (mergedPayload files directory g).entries = g.steps := rfl

theorem locations_mergedPayload :
    (mergedPayload files directory g).value.memberOrNull "locations" =
      (settingIn files directory locationsFile).given?.getD .null := by
  simp [mergedPayload, payloadOf, Json.memberOrNull, Json.member?, Json.asObject?, Table.get?,
    Table.get?_append, get?_member]

theorem patches_mergedPayload :
    (mergedPayload files directory g).value.memberOrNull "patches" =
      (Json.arr (g.patches.map fun p => .obj p.record)).given?.getD .null := by
  simp [mergedPayload, payloadOf, Json.memberOrNull, Json.member?, Json.asObject?, Table.get?,
    Table.get?_append, get?_member]

/-! ## Two payloads with the same findings -/

/-- What is found in the settings and the presets. -/
def settingFindings (files : FileTree) (directory : FilePath) : List Finding :=
  let config := settingIn files directory configFile
  let locations := settingIn files directory locationsFile
  require (config.isNull || config.isObject) (contentSpot "config") .configKind ++
    require (locations.isNull || locations.isObject) (contentSpot "locations") .locationsKind ++
    (questPresets files directory).flatMap fun p => checkPreset p.1 p.2

theorem findings_consolidated (h : KeepsAll files directory) :
    findings (consolidated files directory) = settingFindings files directory ++
      each (questEntries files directory) (checkStepEntry (questPresets files directory)) := by
  unfold findings
  dsimp only
  rw [presets_consolidated h]
  change settingFindings files directory ++ each (questEntries files directory) _ ++ [] ++ [] = _
  rw [List.append_nil, List.append_nil]

section

variable (h : KeepsAll files directory)
  (hg : Gathers files directory (questNames files directory) g)

include h hg in
theorem findings_mergedPayload :
    findings (mergedPayload files directory g) = settingFindings files directory ++
      each g.steps (checkStepEntry (questPresets files directory)) ++
      each (g.patches.map fun p => .obj p.record)
        (checkPatchEntry (questPresets files directory)) := by
  have hpresets : (mergedPayload files directory g).presets = questPresets files directory :=
    hg.presets
  have hlocations := getD_given? h.locations (fun v => v.isNull || v.isObject) rfl
  have hrecords := isKept_arr (g.patches.map fun p => .obj p.record)
  have hkind := getD_given? hrecords (fun v => v.isNull || v.asList?.isSome) rfl
  have hlisted := getD_given? hrecords (fun v => v.asList?.getD []) rfl
  unfold findings
  dsimp only
  rw [hpresets, locations_mergedPayload, patches_mergedPayload, hlocations, hkind, hlisted]
  change settingFindings files directory ++ each g.steps _ ++ [] ++ each _ _ = _
  rw [List.append_nil]
  rfl

include h hg in
/-- Entry by entry, both payloads are judged alike. -/
theorem mem_findings_mergedPayload :
    f ∈ (findings (mergedPayload files directory g)).map Finding.unplaced ↔
      f ∈ (findings (consolidated files directory)).map Finding.unplaced := by
  rw [findings_mergedPayload h hg, findings_consolidated h, List.append_assoc]
  simp only [List.map_append, List.mem_append,
    mem_each_unplaced (sameFindings_checkStepEntry (questPresets files directory)),
    mem_each_unplaced (sameFindings_checkPatchEntry (questPresets files directory))]
  -- the settings and the presets are shared: entries are left, against steps and records
  refine or_congr_right ?_
  rw [hg.steps, hg.records]
  change (∃ v ∈ (questEntries files directory).filter isStepEntry, _) ∨
    (∃ r ∈ ((questEntries files directory).filter Content.isPatchEntry).map recordOf, _) ↔ _
  constructor
  · rintro (⟨v, hv, hf⟩ | ⟨r, hr, hf⟩)
    · exact ⟨v, List.mem_of_mem_filter hv, hf⟩
    · obtain ⟨v, hv, rfl⟩ := List.mem_map.mp hr
      obtain ⟨hmem, hpatch⟩ := List.mem_filter.mp hv
      obtain ⟨id, hid, hlead⟩ := isPatchEntry_eq_true_iff.mp hpatch
      refine ⟨v, hmem, ?_⟩
      rwa [← sameFindings_recordOf hid hlead (h.patches v hmem hpatch) 0 0]
  · rintro ⟨v, hmem, hf⟩
    cases hpatch : Content.isPatchEntry v with
    | true =>
        obtain ⟨id, hid, hlead⟩ := isPatchEntry_eq_true_iff.mp hpatch
        refine .inr ⟨recordOf v, List.mem_map_of_mem (List.mem_filter.mpr ⟨hmem, hpatch⟩), ?_⟩
        rwa [sameFindings_recordOf hid hlead (h.patches v hmem hpatch) 0 0]
    | false =>
        rcases h.entries v hmem with hpreset | hgiven
        · -- a preset entry is not looked at
          simp [checkStepEntry, hpreset] at hf
        · exact .inl ⟨v, List.mem_filter.mpr ⟨hmem, by simp [isStepEntry, hgiven, hpatch]⟩, hf⟩

include h hg in
theorem clean_mergedPayload :
    Clean (findings (mergedPayload files directory g)) ↔
      Clean (findings (consolidated files directory)) := by
  rw [← clean_unplaced, ← @clean_unplaced (findings (consolidated files directory))]
  exact ⟨fun hclean => hclean.mono fun f hf => (mem_findings_mergedPayload h hg).mpr hf,
    fun hclean => hclean.mono fun f hf => (mem_findings_mergedPayload h hg).mp hf⟩

include h hg in
theorem goesOn_mergedPayload :
    GoesOn (findings (mergedPayload files directory g)) ↔
      GoesOn (findings (consolidated files directory)) := by
  rw [← goesOn_unplaced, ← @goesOn_unplaced (findings (consolidated files directory))]
  exact not_congr (mem_findings_mergedPayload h hg)

/-! ## Two payloads with the same records -/

include h hg in
theorem stepRecords_mergedPayload :
    Content.stepRecords (mergedPayload files directory g) =
      Content.stepRecords (consolidated files directory) := by
  unfold Content.stepRecords
  rw [entries_mergedPayload, hg.steps, List.filter_filter]
  refine List.filter_congr fun v hv => ?_
  rcases h.entries v hv with hpreset | hgiven
  · simp [hpreset]
  · simp [isStepEntry, hgiven]

/-- The patch entries, which become the records. -/
theorem patchRecords_consolidated :
    Content.patchRecords (consolidated files directory) =
      (questEntries files directory).filter Content.isPatchEntry := by
  change (questEntries files directory).filter _ ++ [] = _
  rw [List.append_nil]
  refine List.filter_congr fun v _ => ?_
  cases hpatch : Content.isPatchEntry v with
  | false => rw [Bool.and_false]
  | true =>
      obtain ⟨id, hid, -⟩ := isPatchEntry_eq_true_iff.mp hpatch
      rw [isPresetEntry_of_id hid]
      rfl

include hg in
theorem patchRecords_mergedPayload :
    Content.patchRecords (mergedPayload files directory g) =
      (Content.patchRecords (consolidated files directory)).map recordOf := by
  have hrecords := getD_given? (isKept_arr (g.patches.map fun p => .obj p.record))
    (fun v => v.asList?.getD []) rfl
  have hnone :
      (g.steps.filter fun v => !Payload.isPresetEntry v && Content.isPatchEntry v) = [] := by
    rw [hg.steps, List.filter_filter, List.filter_eq_nil_iff]
    intro v _
    simp +contextual [isStepEntry]
  unfold Content.patchRecords
  rw [patches_mergedPayload, hrecords, entries_mergedPayload, hnone, List.nil_append]
  change (g.patches.map fun p => Json.obj p.record) =
    (Content.patchRecords (consolidated files directory)).map recordOf
  rw [hg.records, patchRecords_consolidated]
  rfl

include h hg in
/-- What the payloads are put together to is the same. -/
theorem assemble_mergedPayload (source : Option String) :
    Content.assemble source (mergedPayload files directory g) =
      Content.assemble source (consolidated files directory) := by
  have hpresets : (mergedPayload files directory g).presets =
      (consolidated files directory).presets :=
    hg.presets.trans (presets_consolidated h).symm
  have hlocations := getD_given? h.locations (fun v => v.asObject?.getD []) rfl
  have hpatches : ((Content.patchRecords (mergedPayload files directory g)).mapM fun v =>
        liftShape (Content.readPatch (consolidated files directory).presets source v)) =
      (Content.patchRecords (consolidated files directory)).mapM fun v =>
        liftShape (Content.readPatch (consolidated files directory).presets source v) := by
    rw [patchRecords_mergedPayload hg, patchRecords_consolidated]
    apply mapM_map_congr
    intro v hv
    obtain ⟨hmem, hpatch⟩ := List.mem_filter.mp hv
    obtain ⟨id, hid, -⟩ := isPatchEntry_eq_true_iff.mp hpatch
    rw [readPatch_recordOf hid (h.patches v hmem hpatch)]
  unfold Content.assemble
  dsimp only
  rw [hpresets, stepRecords_mergedPayload h hg, hpatches, locations_mergedPayload,
    hlocations]
  rfl

end

/-! ## Loading -/

theorem agrees_of_assemble {payload payload' : Payload} {source source' : Option String}
    (h : Clean (findings payload))
    (hsame : Content.assemble none payload = Content.assemble none payload') :
    Agrees (Content.liftLoad (Content.assemble source payload))
      (Content.assemble source' payload') := by
  rw [← Content.assemble_unsourced source, ← Content.assemble_unsourced source'] at hsame
  have hexit := Content.assemble_exit source h
  generalize Content.assemble source payload = built at hexit hsame
  generalize Content.assemble source' payload' = built' at hsame
  -- the exits of one side are known, and the equation tells those of the other
  cases built' with
  | error f =>
      cases hexit with
      | infinite => cases hsame; exact .failed _
      | lostTarget => cases hsame; exact .failed _
      | built => cases hsame
  | ok c' =>
      cases hexit with
      | infinite => cases hsame
      | lostTarget => cases hsame
      | built => exact .built (Except.ok.inj hsame)

theorem agrees_of_gathers (source source' : Option String) (h : KeepsAll files directory)
    (hg : Gathers files directory (questNames files directory) g) :
    Agrees (Content.liftLoad (Content.build source (mergedPayload files directory g)))
      (Content.build source' (consolidated files directory)) := by
  by_cases hgoes : GoesOn (findings (consolidated files directory))
  · have hgoes' := (goesOn_mergedPayload h hg).mpr hgoes
    by_cases hclean : Clean (findings (consolidated files directory))
    · have hclean' := (clean_mergedPayload h hg).mpr hclean
      rw [Content.build_of_clean _ rfl hgoes hclean, Content.build_of_clean _ rfl hgoes' hclean']
      exact agrees_of_assemble hclean' (assemble_mergedPayload h hg none)
    · have hclean' := mt (clean_mergedPayload h hg).mp hclean
      rw [Content.build_of_not_clean _ hgoes hclean, Content.build_of_not_clean _ hgoes' hclean']
      exact .refused _ _
  · have hgoes' := mt (goesOn_mergedPayload h hg).mp hgoes
    rw [Content.build_of_not_goesOn _ rfl hgoes, Content.build_of_not_goesOn _ rfl hgoes']
    exact .failed .unreadableNumber

theorem load_eq_build {merged : Merge} (hfolder : files.probe directory = .ok (some .folder))
    (hmerge : mergeDirectory files directory = .ok merged) (herrors : merged.report.errors = []) :
    Content.load files directory =
      Content.liftLoad (Content.build (some directory.text) merged.payload) := by
  rw [Content.load, hfolder]
  simp [Content.loadDirectory, hmerge, Content.liftMerge, herrors, bind, Except.bind]

/-! ## What the one payload is not built without -/

section

variable {c : Content} {source : Option String}

theorem isKept_locations (h : Content.build source (consolidated files directory) = .ok c) :
    IsKept (.obj []) (settingIn files directory locationsFile) := by
  have hclean := (Content.built_of_build h).passes.1
  simp only [findings, clean_append] at hclean
  obtain ⟨⟨⟨⟨⟨⟨-, -⟩, hlocations⟩, -⟩, -⟩, -⟩, -⟩ := hclean
  have hkind := (clean_require rfl).mp hlocations
  change ((settingIn files directory locationsFile).isNull ||
    (settingIn files directory locationsFile).isObject) = true at hkind
  cases hvalue : settingIn files directory locationsFile with
  | null => exact .inr (.inl rfl)
  | obj ms => exact isKept_obj ms
  | _ =>
      rw [hvalue] at hkind
      contradiction

/-- Every entry of a payload that is built has been looked at. -/
theorem isKept_entry (h : Content.build source (consolidated files directory) = .ok c)
    (hv : v ∈ questEntries files directory) :
    (Payload.isPresetEntry v = true ∨ (v.memberOrNull "id").isGiven = true) ∧
      (Content.isPatchEntry v = true → IsKept (.arr []) (v.memberOrNull "tags") ∧
        IsKept (.obj []) (v.memberOrNull "text") ∧ IsKept (.obj []) (v.memberOrNull "vars")) := by
  have hclean := (Content.built_of_build h).passes.1
  have hentries := hclean.mono (entries_subset_findings (consolidated files directory))
  obtain ⟨i, hi⟩ := exists_clean_of_each hentries hv
  constructor
  · cases hpreset : Payload.isPresetEntry v with
    | true => exact .inl rfl
    | false =>
        obtain ⟨-, id, -, hid, hblank, -⟩ := exists_id_of_checkStepEntry hpreset hi
        rw [hid]
        exact .inr (isGiven_of_not_isBlankText hblank)
  · intro hpatch
    obtain ⟨id, hid, hlead⟩ := isPatchEntry_eq_true_iff.mp hpatch
    rw [checkStepEntry_patch hid hlead] at hi
    obtain ⟨_, -, -, -, hcheck⟩ := checkPatch_eq hi
    rw [hcheck] at hi
    simp only [clean_patchTarget, clean_append] at hi
    obtain ⟨⟨⟨htags, htext⟩, -⟩, hvars⟩ := hi
    exact ⟨isKept_of_checkTags htags, isKept_of_checkTextChange htext, isKept_of_checkVars hvars⟩

end

/-- If a merge without errors passes on all that stands in the files, then loading the directory
agrees with building the one payload of all their entries.  Where it passes something over, the one
payload is not built, unless this is the target of a patch, options that name a preset by the empty
text, or a preset that is alike to another of its name but not the same. -/
theorem load_agrees_with_consolidated {merged : Merge} (source : Option String)
    (hfolder : files.probe directory = .ok (some .folder))
    (hmerge : mergeDirectory files directory = .ok merged) (herrors : merged.report.errors = []) :
    (KeepsAll files directory → Agrees (Content.load files directory)
      (Content.build source (consolidated files directory))) ∧
    ∀ c, Content.build source (consolidated files directory) = .ok c →
      IsKept (.obj []) (settingIn files directory locationsFile) ∧
      ∀ v ∈ questEntries files directory,
        (Payload.isPresetEntry v = true ∨ (v.memberOrNull "id").isGiven = true) ∧
        (Content.isPatchEntry v = true → IsKept (.arr []) (v.memberOrNull "tags") ∧
          IsKept (.obj []) (v.memberOrNull "text") ∧ IsKept (.obj []) (v.memberOrNull "vars")) := by
  constructor
  · intro hkeeps
    obtain ⟨g, hg, hpayload⟩ := exists_gathers_of_mergeDirectory hmerge herrors
    rw [load_eq_build hfolder hmerge herrors, hpayload]
    exact agrees_of_gathers (some directory.text) source hkeeps hg
  · intro c hbuild
    exact ⟨isKept_locations hbuild, fun v hv => isKept_entry hbuild hv⟩

/-! ## Directories -/

def questDirectory : FilePath := { parts := ["q"] }

/-- A directory with nothing but the given documents. -/
def questFiles (documents : List (String × Json)) : FileTree :=
  ⟨(["q"], .folder) :: documents.map fun d => (["q", d.1], .file (.document d.2))⟩

theorem questNames_of_sorted (hfolder : files.isFolder directory = true)
    (hsorted : (files.namesIn directory.location).Pairwise (· ≤ ·)) :
    questNames files directory = (files.namesIn directory.location).filter fun name =>
      isQuestName name && files.isFile (directory.child name) := by
  rw [questNames, FileTree.children_eq_sortTexts hfolder, Text.sortTexts_eq_self hsorted]

theorem questNames_questFiles {documents : List (String × Json)}
    (hsorted : ((questFiles documents).namesIn ["q"]).Pairwise (· ≤ ·)) :
    questNames (questFiles documents) questDirectory =
      ((questFiles documents).namesIn ["q"]).filter fun name =>
        isQuestName name && (questFiles documents).isFile (questDirectory.child name) :=
  questNames_of_sorted rfl hsorted

def waysEntry : Json := .obj [("option_presets", .obj [("ways", .arr [.str "Enter::Hall"])])]

def gateEntry : Json :=
  .obj [("id", .str "Gate"), ("text", .str "A gate."), ("options", .str "ways")]

def nightEntry : Json :=
  .obj [("id", .str "@patch:Gate"), ("tags", .arr []), ("text", .obj [("append", .str "Night.")])]

def hallEntry : Json := .obj [("id", .str "Hall"), ("text", .str "A hall.")]

/-- A patch stands in another file than its step. -/
def gateAndHall : FileTree :=
  questFiles [("gate.json", .obj [("steps", .arr [waysEntry, gateEntry])]),
    ("hall.json", .obj [("steps", .arr [nightEntry, hallEntry])])]

theorem load_agrees_for_gate_and_hall :
    gateAndHall.probe questDirectory = .ok (some .folder) ∧
      KeepsAll gateAndHall questDirectory ∧
      ∃ merged, mergeDirectory gateAndHall questDirectory = .ok merged ∧
        merged.report.errors = [] ∧
        Agrees (Content.load gateAndHall questDirectory)
          (Content.build none (consolidated gateAndHall questDirectory)) ∧
        ∃ c, Content.load gateAndHall questDirectory = .ok c ∧ c.stepIds = ["Gate", "Hall"] ∧
          c.patches.map (·.target) = [.str "Gate"] := by
  have hfolder : gateAndHall.probe questDirectory = .ok (some .folder) := rfl
  have hnames : questNames gateAndHall questDirectory = ["gate.json", "hall.json"] := by
    rw [gateAndHall, questNames_questFiles (by decide +kernel)]
    decide +kernel
  have hentries : questEntries gateAndHall questDirectory =
      [waysEntry, gateEntry, nightEntry, hallEntry] := by
    rw [questEntries, hnames]
    rfl
  have hpresets : questPresets gateAndHall questDirectory =
      [(.str "ways", .arr [.str "Enter::Hall"])] := by
    rw [questPresets, hnames]
    rfl
  have hnight : KeepsPatch nightEntry := by
    constructor
    · exact .inl rfl
    · exact .inr (.inr rfl)
    · exact .inl rfl
    · exact .inr (.inl rfl)
    · exact .inr (.inl rfl)
  have hkeeps : KeepsAll gateAndHall questDirectory := by
    constructor
    · rw [hentries]
      decide +kernel
    · rw [hentries]
      simp only [List.forall_mem_cons]
      exact ⟨nofun, nofun, fun _ => hnight, nofun, nofun⟩
    · exact .inr (.inr rfl)
    · rw [hnames, hpresets]
      simp only [List.forall_mem_cons]
      exact ⟨fun s v h => h, nofun, nofun⟩
  have hmerge : ∃ merged, mergeDirectory gateAndHall questDirectory = .ok merged ∧
      merged.report.errors = [] := by
    rw [mergeDirectory, hnames]
    exact ⟨_, rfl, rfl⟩
  obtain ⟨merged, hmerged, herrors⟩ := hmerge
  have hload : ∃ c, Content.load gateAndHall questDirectory = .ok c ∧
      c.stepIds = ["Gate", "Hall"] ∧ c.patches.map (·.target) = [.str "Gate"] := by
    rw [Content.load, Content.loadDirectory, mergeDirectory, hnames]
    exact ⟨_, rfl, rfl, rfl⟩
  exact ⟨hfolder, hkeeps, merged, hmerged, herrors,
    (load_agrees_with_consolidated none hfolder hmerged herrors).1 hkeeps, hload⟩

/-- An entry without an id is an error in the one payload, and is passed over in the directory. -/
theorem load_can_hide_an_entry :
    let files := questFiles [("gate.json", .obj [("steps", .arr [
      .obj [("id", .str "Gate"), ("text", .str "A gate.")], .obj [("text", .str "A hall.")]])])]
    (∃ merged, mergeDirectory files questDirectory = .ok merged ∧ merged.report.errors = []) ∧
      Content.load files questDirectory =
        .ok { steps := [{ id := "Gate", text := "A gate.", source := some "q" }] } ∧
      Content.build none (consolidated files questDirectory) =
        .error (.invalid ["steps[1].id: Step entry 2: is missing a valid 'id'."]) := by
  intro files
  have hnames : questNames files questDirectory = ["gate.json"] := by
    rw [questNames_questFiles (by decide +kernel)]
    decide +kernel
  have hentries : questEntries files questDirectory = [
      .obj [("id", .str "Gate"), ("text", .str "A gate.")], .obj [("text", .str "A hall.")]] := by
    rw [questEntries, hnames]
    rfl
  have htexts : (reportOn (consolidated files questDirectory)).errorTexts =
      ["steps[1].id: Step entry 2: is missing a valid 'id'."] := by
    rw [consolidated, questPresets, hentries, hnames]
    decide +kernel
  refine ⟨?_, ?_, ?_⟩
  · rw [mergeDirectory, hnames]
    exact ⟨_, rfl, rfl⟩
  · rw [Content.load, Content.loadDirectory, mergeDirectory, hnames]
    rfl
  · rw [← htexts, consolidated, questPresets, hentries, hnames]
    rfl

end Questline
