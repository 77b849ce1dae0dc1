import Questline.Proofs.Files.Replacement
import Questline.Proofs.Save.Reading
import Questline.Proofs.Save.Refinement

/-!
# Loading a slot

Loading ends with the save, or with the backup in its place, or with nothing,
or it stops.  Which of these happens depends on what the files of the slot are
as saves, and on nothing else.  Right after a save it ends with what was saved,
whatever the files were before.
-/

namespace Questline

open FilePath (IsPlain nameLimit shortLimit)

namespace SaveStore

/-- No folder stands where a save is put, or where it is written aside, and that path is short
enough. -/
structure Writable (s : SaveStore) (files : FileTree) (slot : String) : Prop where
  room : (s.temporary slot).text.utf8ByteSize ≤ FilePath.textLimit
  temporary : files.isFolder (s.temporary slot) = false
  primary : files.isFolder (s.primary slot) = false

/-- The save is in place, and nothing else has changed but the file it was written to first. -/
structure Restored (s : SaveStore) (files : FileTree) (slot : String) (save : Save)
    (u : FileTree) : Prop where
  primary : u.entry (s.primary slot) = .ok (some (.file (.document save.written)))
  others : ∀ place, ¬ (s.temporary slot).location <+: place → place ≠ (s.primary slot).location →
    u.lookup? place = files.lookup? place

/-- The ways in which loading a slot can end. -/
inductive LoadExit (s : SaveStore) (files : FileTree) (slot : String) (preferBackup : Bool) :
    Saved (Option Player) → Prop where
  | nothing (htarget : s.target? files slot preferBackup = none) :
    LoadExit s files slot preferBackup ⟨files, [noSaveText slot], .ok none⟩
  | found {path : FilePath} {save : Save}
      (htarget : s.target? files slot preferBackup = some path)
      (hread : readSave files path = .ok save) :
    LoadExit s files slot preferBackup ⟨files, [], .ok (some save.player)⟩
  | stopped {path : FilePath} {f : SaveFault}
      (htarget : s.target? files slot preferBackup = some path)
      (hread : readSave files path = .error f) (hbad : f.isBadSave = false) :
    LoadExit s files slot preferBackup ⟨files, [], .error f⟩
  | noBackup {path : FilePath} {f : SaveFault}
      (htarget : s.target? files slot preferBackup = some path)
      (hread : readSave files path = .error f) (hbad : f.isBadSave = true)
      (hother : ¬ (files.isThere (s.backup slot) = true ∧ path ≠ s.backup slot)) :
    LoadExit s files slot preferBackup ⟨files, [noBackupText slot f], .ok none⟩
  | backupBad {path : FilePath} {f g : SaveFault}
      (htarget : s.target? files slot preferBackup = some path)
      (hread : readSave files path = .error f) (hbad : f.isBadSave = true)
      (hother : files.isThere (s.backup slot) = true ∧ path ≠ s.backup slot)
      (hbackup : readSave files (s.backup slot) = .error g) (hworse : g.isBadSave = true) :
    LoadExit s files slot preferBackup
      ⟨files, [unreadableText slot f, backupFailedText slot g], .ok none⟩
  | backupStopped {path : FilePath} {f g : SaveFault}
      (htarget : s.target? files slot preferBackup = some path)
      (hread : readSave files path = .error f) (hbad : f.isBadSave = true)
      (hother : files.isThere (s.backup slot) = true ∧ path ≠ s.backup slot)
      (hbackup : readSave files (s.backup slot) = .error g) (hworse : g.isBadSave = false) :
    LoadExit s files slot preferBackup ⟨files, [unreadableText slot f], .error g⟩
  | restored {path : FilePath} {f : SaveFault} {save : Save} {u : FileTree}
      (htarget : s.target? files slot preferBackup = some path)
      (hread : readSave files path = .error f) (hbad : f.isBadSave = true)
      (hother : files.isThere (s.backup slot) = true ∧ path ≠ s.backup slot)
      (hbackup : readSave files (s.backup slot) = .ok save) (hu : s.Restored files slot save u) :
    LoadExit s files slot preferBackup
      ⟨u, [unreadableText slot f, restoredText slot], .ok (some save.player)⟩

variable {s : SaveStore} {files : FileTree} {name slot : String} {preferBackup : Bool}
  {path : FilePath} {save : Save}

/-! ## Putting the backup in place -/

theorem exists_read_of_isThere (hthere : files.isThere path = true)
    (hfolder : files.isFolder path = false) : ∃ content, files.read path = .ok content := by
  unfold FileTree.isThere FileTree.entry? at hthere
  unfold FileTree.isFolder FileTree.entry? at hfolder
  cases hentry : files.entry path with
  | error f => simp [hentry] at hthere
  | ok e =>
      rw [hentry] at hthere hfolder
      obtain ⟨e, rfl⟩ := Option.isSome_iff_exists.mp hthere
      cases e with
      | folder => contradiction
      | file content => exact ⟨content, FileTree.read_eq_ok hentry⟩

theorem exists_read_of_readSave (h : readSave files path = .ok save) :
    ∃ content, files.read path = .ok content := by
  cases hread : files.read path with
  | error f => simp [readSave, FileTree.readValue, hread] at h
  | ok content => exact ⟨content, rfl⟩

theorem isThere_of_read {content : FileContent} (h : files.read path = .ok content) :
    files.isThere path = true := by
  rw [FileTree.isThere, FileTree.entry?, FileTree.read_eq_ok_iff.mp h]
  rfl

theorem isFolder_of_not_isThere (h : files.isThere path = false) :
    files.isFolder path = false := by
  rw [FileTree.isThere, Option.isSome_eq_false_iff, Option.isNone_iff_eq_none] at h
  rw [FileTree.isFolder, h]
  rfl

theorem primary_ne_backup (s : SaveStore) (slot : String) : s.primary slot ≠ s.backup slot := by
  intro h
  have hparts := congrArg FilePath.parts h
  have hnames : [primaryName] = [backupName] := List.append_cancel_left hparts
  exact absurd hnames (by decide)

theorem obstacle?_of_read {content : FileContent} (h : files.read path = .ok content) :
    files.obstacle? path = none :=
  (FileTree.clear_of_entry_eq_ok (FileTree.read_eq_ok_iff.mp h)).1

theorem takes_of_clear (hfolder : files.isFolder path = false)
    (hclear : files.obstacle? path = none) : files.Takes path where
  clear := hclear
  not_folder := fun hlookup => by
    rw [FileTree.isFolder_iff.mpr ⟨hclear, hlookup⟩] at hfolder
    contradiction

/-- Beside a file of the slot, every other of its files can be reached. -/
theorem obstacle?_file (hw : s.Writable files slot) {known file : String}
    (hclear : files.obstacle? ((s.folder slot).child known) = none)
    (hplain : IsPlain shortLimit file) (hshort : file.utf8ByteSize ≤ temporaryName.utf8ByteSize) :
    files.obstacle? ((s.folder slot).child file) = none :=
  FileTree.obstacle?_sibling (hplain.mono (by decide))
    (Nat.le_trans (FilePath.text_child_size_mono _ hshort) hw.room) hclear

/-- The save can be written aside and put in place. -/
theorem takes_of_writable (hw : s.Writable files slot) {known : String}
    (hclear : files.obstacle? ((s.folder slot).child known) = none) :
    files.Takes (s.temporary slot) ∧ files.Takes (s.primary slot) :=
  ⟨takes_of_clear hw.temporary (obstacle?_file hw hclear isPlain_temporaryName (Nat.le_refl _)),
    takes_of_clear hw.primary (obstacle?_file hw hclear isPlain_primaryName (by decide))⟩

theorem exists_perform_restore (hw : s.Writable files slot)
    (hbackup : readSave files (s.backup slot) = .ok save) (f : SaveFault) :
    ∃ u, (s.restore files slot f).perform files =
        ⟨u, [unreadableText slot f, restoredText slot], .ok (some save.player)⟩ ∧
      s.Restored files slot save u := by
  -- the backup could be read, so the way into the folder of the slot is clear
  obtain ⟨content, hread⟩ := exists_read_of_readSave hbackup
  obtain ⟨htemporary, hprimary⟩ := takes_of_writable hw (obstacle?_of_read hread)
  obtain ⟨u, hperform⟩ :=
    FileTree.exists_performAll_replace htemporary hprimary (.document save.written)
  obtain ⟨hentry, hothers⟩ := FileTree.replaced_of_performAll hperform
  have hactions : files.performAll (s.writeActions slot save.written []) = (u, none) := hperform
  refine ⟨u, ?_, hentry, hothers⟩
  simp only [restore, hbackup, SavePlan.perform, hactions, List.singleton_append]

/-! ## How loading ends -/

theorem load_exit (hslot : s.slotIn files name = .ok slot) (hw : s.Writable files slot)
    (preferBackup : Bool) :
    s.LoadExit files slot preferBackup ((s.load files name preferBackup).perform files) := by
  rw [load, hslot, withSlot]
  cases htarget : s.target? files slot preferBackup with
  | none => exact .nothing htarget
  | some path =>
      simp only [loadFrom]
      cases hread : readSave files path with
      | ok save => exact .found htarget hread
      | error f =>
          cases hbad : f.isBadSave with
          | false =>
              simp only [hbad, Bool.not_false, if_true]
              exact .stopped htarget hread hbad
          | true =>
              by_cases hother : files.isThere (s.backup slot) = true ∧ path ≠ s.backup slot
              · simp only [hbad, hother, Bool.not_true, Bool.false_eq_true, Bool.false_or,
                  decide_false, if_false]
                cases hbackup : readSave files (s.backup slot) with
                | ok save =>
                    obtain ⟨u, hperform, hu⟩ := exists_perform_restore hw hbackup f
                    rw [hperform]
                    exact .restored htarget hread hbad hother hbackup hu
                | error g =>
                    simp only [restore, hbackup]
                    cases hworse : g.isBadSave with
                    | true => exact .backupBad htarget hread hbad hother hbackup hworse
                    | false => exact .backupStopped htarget hread hbad hother hbackup hworse
              · have hnone : (!files.isThere (s.backup slot) || decide (path = s.backup slot)) =
                    true := by
                  rw [Bool.or_eq_true, Bool.not_eq_true', decide_eq_true_eq]
                  by_contra h
                  rw [not_or, Bool.not_eq_false] at h
                  exact hother h
                simp only [hbad, hnone, Bool.not_true, Bool.false_eq_true, if_false, if_true]
                exact .noBackup htarget hread hbad hother

/-! ## What is read -/

/-- The files that loading a slot reads: the one that is loaded and, if that is a save that is no
good, the backup. -/
def Reads (s : SaveStore) (files : FileTree) (slot : String) (preferBackup : Bool)
    (p : FilePath) : Prop :=
  ∃ path, s.target? files slot preferBackup = some path ∧
    (p = path ∨ p = s.backup slot ∧ (files.isThere (s.backup slot) = true ∧ path ≠ s.backup slot) ∧
      ∃ f, readSave files path = .error f ∧ f.isBadSave = true)

theorem LoadExit.exists_answer_iff {loaded : Saved (Option Player)}
    (e : s.LoadExit files slot preferBackup loaded) :
    (∃ found, loaded.answer = .ok found) ↔
      ∀ path, s.Reads files slot preferBackup path →
        ∀ f, readSave files path = .error f → f.isBadSave = true := by
  cases e with
  | nothing htarget => simp [Reads, htarget]
  | found htarget hread => simp [Reads, htarget, hread]
  | stopped htarget hread hbad => simp [Reads, htarget, hread, hbad]
  | noBackup htarget hread hbad hother => simp [Reads, htarget, hread, hbad, hother]
  | backupBad htarget hread hbad hother hbackup hworse =>
      simp [Reads, htarget, hread, hbad, hother, hbackup, hworse]
  | backupStopped htarget hread hbad hother hbackup hworse =>
      simp [Reads, htarget, hread, hbad, hother, hbackup, hworse]
  | restored htarget hread hbad hother hbackup hu =>
      simp [Reads, htarget, hread, hbad, hother, hbackup]

theorem LoadExit.answer_eq_some_iff {loaded : Saved (Option Player)}
    (e : s.LoadExit files slot preferBackup loaded) (p : Player) :
    loaded.answer = .ok (some p) ↔
      ∃ path save, s.Reads files slot preferBackup path ∧ readSave files path = .ok save ∧
        save.player = p := by
  cases e with
  | nothing htarget => simp [Reads, htarget]
  | found htarget hread => simp [Reads, htarget, hread]
  | stopped htarget hread hbad => simp [Reads, htarget, hread, hbad]
  | noBackup htarget hread hbad hother => simp [Reads, htarget, hread, hbad, hother]
  | backupBad htarget hread hbad hother hbackup hworse =>
      simp [Reads, htarget, hread, hbad, hother, hbackup]
  | backupStopped htarget hread hbad hother hbackup hworse =>
      simp [Reads, htarget, hread, hbad, hother, hbackup]
  | restored htarget hread hbad hother hbackup hu =>
      simp [Reads, htarget, hread, hbad, hother, hbackup]

/-! ## Loading with ordinary files -/

/-- The slots have a folder, the path of a save is short enough, and none of the files of the slot
is a folder; which of them are there, and what they hold, is open. -/
structure Regular (s : SaveStore) (files : FileTree) (slot : String) : Prop
    extends s.Writable files slot where
  base : files.isFolder s.base = true
  backup : files.isFolder (s.backup slot) = false
  legacy : files.isFolder (s.legacy slot) = false

theorem Regular.slotIn_eq_shelfSlot (hr : s.Regular files slot)
    (hname : slotName? name = some slot) : s.slotIn files name = shelfSlot s.primary name := by
  refine SaveStore.slotIn_eq_shelfSlot hr.base fun other hother _ => ?_
  rw [hname] at hother
  obtain rfl := Option.some.inj hother
  exact Nat.le_trans (FilePath.text_child_size_mono _ (by decide)) hr.room

theorem Regular.isFolder_of_reads (hr : s.Regular files slot)
    (hreads : s.Reads files slot preferBackup path) : files.isFolder path = false := by
  obtain ⟨target, htarget, rfl | ⟨rfl, -⟩⟩ := hreads
  · have hmem := List.mem_of_find?_eq_some htarget
    simp only [List.mem_cons, List.not_mem_nil, or_false] at hmem
    rcases hmem with rfl | rfl | rfl
    · split
      · exact hr.backup
      · exact hr.primary
    · exact hr.primary
    · exact hr.legacy
  · exact hr.backup

theorem isThere_of_reads (hreads : s.Reads files slot preferBackup path) :
    files.isThere path = true := by
  obtain ⟨target, htarget, rfl | ⟨rfl, ⟨hthere, -⟩, -⟩⟩ := hreads
  · exact List.find?_some htarget
  · exact hthere

/-- A file that is read is no reason to stop, or it is one whose content stops the reading. -/
theorem Regular.forall_isBadSave_iff (hr : s.Regular files slot)
    (hreads : s.Reads files slot preferBackup path) :
    (∀ f, readSave files path = .error f → f.isBadSave = true) ↔
      ∀ content, files.read path = .ok content → ¬ content.Stops := by
  obtain ⟨content, hread⟩ :=
    exists_read_of_isThere (isThere_of_reads hreads) (hr.isFolder_of_reads hreads)
  have hstops := readSave_stops_iff hread
  constructor
  · intro hbad other hother hstop
    rw [hread] at hother
    cases hother
    obtain ⟨f, hf, hnot⟩ := hstops.mpr hstop
    rw [hbad f hf] at hnot
    contradiction
  · intro hclear f hf
    by_contra hnot
    exact hclear content hread (hstops.mp ⟨f, hf, Bool.not_eq_true _ ▸ hnot⟩)

/-- Loading the slot of a name gives an answer exactly if none of the files it reads stops it, and
the answer is the player of the one file it reads that is a save, if there is one.  Where that gives
no player, a new one is made on demand. -/
theorem load_answers_iff (s : SaveStore) (files : FileTree) (hname : slotName? name = some slot)
    (hr : s.Regular files slot) (preferBackup : Bool) (character : Option String) :
    (slot.utf8ByteSize ≤ nameLimit →
      ((∃ found, ((s.load files name preferBackup).perform files).answer = .ok found) ↔
        ∀ path, s.Reads files slot preferBackup path →
          ∀ content, files.read path = .ok content → ¬ content.Stops) ∧
      ∀ p, ((s.load files name preferBackup).perform files).answer = .ok (some p) ↔
        ∃ path save, s.Reads files slot preferBackup path ∧ readSave files path = .ok save ∧
          save.player = p) ∧
    (nameLimit < slot.utf8ByteSize → (s.load files name preferBackup).perform files =
      ⟨files, [], .error (.file ⟨.nameTooLong, s.primary slot⟩)⟩) ∧
    ((s.loadOrNew files name character).perform files).answer =
      ((s.load files name false).perform files).answer.map fun found =>
        found.getD (.new s.config character fun _ => none) := by
  have hslot : slotOf name = .ok slot := slotOf_eq_ok_iff.mpr hname
  have hfound : s.slotIn files name = shelfSlot s.primary name := hr.slotIn_eq_shelfSlot hname
  refine ⟨fun hshort => ?_, fun hlong => ?_, ?_⟩
  · have hin : s.slotIn files name = .ok slot := by
      rw [hfound, shelfSlot, hslot]
      exact if_neg (Nat.not_lt.mpr hshort)
    have hexit := load_exit hin hr.toWritable preferBackup
    refine ⟨?_, hexit.answer_eq_some_iff⟩
    rw [hexit.exists_answer_iff]
    exact forall_congr' fun path => forall_congr' fun hreads => hr.forall_isBadSave_iff hreads
  · have hin : s.slotIn files name = .error (.file ⟨.nameTooLong, s.primary slot⟩) := by
      rw [hfound, shelfSlot, hslot]
      exact if_pos hlong
    rw [load, hin]
    rfl
  · rw [loadOrNew, SavePlan.perform_map]

/-- The files of one slot below the working directory. -/
def heroFiles (files : List (String × FileContent)) : FileTree :=
  ⟨(["saves"], .folder) :: (["saves", "hero"], .folder) ::
    files.map fun p => (["saves", "hero", p.1], .file p.2)⟩

/-- A current save that is no document does not stop the loading: the backup is read as well, and
holds a save. -/
theorem load_answers_iff_for_hero :
    let files := heroFiles [(primaryName, .text "broken"),
      (backupName, .document (savesStore.savePayload "hero" { xp := 3 }))]
    slotName? "Hero!" = some "hero" ∧ savesStore.Regular files "hero" ∧
      (((savesStore.load files "Hero!" false).perform files).answer.map fun found =>
        found.map (·.xp)) = .ok (some 3) ∧
      ∀ path, savesStore.Reads files "hero" false path →
        ∀ content, files.read path = .ok content → ¬ content.Stops := by
  intro files
  have hname : slotName? "Hero!" = some "hero" := by decide +kernel
  have hr : savesStore.Regular files "hero" := by
    constructor
    · constructor <;> decide +kernel
    all_goals decide +kernel
  have hxp : (((savesStore.load files "Hero!" false).perform files).answer.map fun found =>
      found.map (·.xp)) = .ok (some 3) := by decide +kernel
  have hanswer :
      ∃ found, ((savesStore.load files "Hero!" false).perform files).answer = .ok found := by
    cases h : ((savesStore.load files "Hero!" false).perform files).answer with
    | ok found => exact ⟨found, rfl⟩
    | error f => simp [h, Except.map] at hxp
  have hiff := ((load_answers_iff savesStore files hname hr false none).1 (by decide)).1
  exact ⟨hname, hr, hxp, hiff.mp hanswer⟩

/-- A save with a byte that is no text stops the loading. -/
theorem load_can_stop :
    let files := heroFiles [(primaryName, .bytes [0xff])]
    savesStore.Regular files "hero" ∧
      ((savesStore.load files "hero" false).perform files).answer =
        .error (.fault .undecodable) := by
  intro files
  refine ⟨?_, by decide +kernel⟩
  constructor
  · constructor <;> decide +kernel
  all_goals decide +kernel

/-! ## Loading with a good backup -/

/-- Where a file of the slot can be read, the slot is found. -/
theorem slotIn_of_read {content : FileContent} {known : String}
    (hname : slotName? name = some slot) (hw : s.Writable files slot)
    (hread : files.read ((s.folder slot).child known) = .ok content) :
    s.slotIn files name = .ok slot := by
  have hclear : files.obstacle? (s.primary slot) = none :=
    obstacle?_file hw (obstacle?_of_read hread) isPlain_primaryName (by decide)
  have hprobe : files.probe (s.primary slot) = .ok (files.lookup? (s.primary slot).location) := by
    rw [FileTree.probe, FileTree.entry_of_clear hclear]
  simp only [slotIn, slotOf_eq_ok_iff.mpr hname, hprobe, bind, Except.bind]
  rfl

theorem target?_of_no_legacy (hlegacy : files.isThere (s.legacy slot) = false) :
    s.target? files slot false =
      if files.isThere (s.primary slot) then some (s.primary slot) else none := by
  cases hprimary : files.isThere (s.primary slot) <;> simp [target?, hprimary, hlegacy]

/-- Where the backup is a save and there is none of an earlier schema, everything depends on the
current save.  Without one nothing is loaded, although there is a slot.  One that is no good is
replaced by the backup, and one that stops the reading stops the loading. -/
theorem load_of_backup (s : SaveStore) (files : FileTree) (hname : slotName? name = some slot)
    (hw : s.Writable files slot) (hbackup : readSave files (s.backup slot) = .ok save)
    (hlegacy : files.isThere (s.legacy slot) = false) :
    (files.isThere (s.primary slot) = false →
      (s.load files name false).perform files = ⟨files, [noSaveText slot], .ok none⟩ ∧
      s.has files name = .ok true) ∧
    (∀ content f, files.read (s.primary slot) = .ok content → ¬ content.Stops →
      readSave files (s.primary slot) = .error f →
        ∃ u, (s.load files name false).perform files =
            ⟨u, [unreadableText slot f, restoredText slot], .ok (some save.player)⟩ ∧
          u.readValue (s.primary slot) = .ok save.written ∧ s.Restored files slot save u) ∧
    (∀ content, files.read (s.primary slot) = .ok content → content.Stops →
      ∃ f, (s.load files name false).perform files = ⟨files, [], .error f⟩) := by
  obtain ⟨kept, hkept⟩ := exists_read_of_readSave hbackup
  have hthere : files.isThere (s.backup slot) = true := isThere_of_read hkept
  have hin : s.slotIn files name = .ok slot := slotIn_of_read hname hw hkept
  have hexit := load_exit hin hw false
  generalize (s.load files name false).perform files = loaded at hexit ⊢
  refine ⟨fun hmissing => ?_, fun content f hread hclear hbad => ?_, fun content hread hstop => ?_⟩
  · -- the backup is looked at for a slot, but is no target of its own
    have hnone : s.target? files slot false = none := by
      rw [target?_of_no_legacy hlegacy, hmissing]
      rfl
    have hhas : s.has files name = .ok true := by
      simp [has, hin, hthere, bind, Except.bind, pure, Except.pure]
    cases hexit with
    | nothing _ => exact ⟨rfl, hhas⟩
    | _ => simp_all
  · have htarget : s.target? files slot false = some (s.primary slot) := by
      rw [target?_of_no_legacy hlegacy, isThere_of_read hread]
      rfl
    have hnot : f.isBadSave = true := by
      by_contra hnot
      exact hclear ((readSave_stops_iff hread).mp ⟨f, hbad, Bool.not_eq_true _ ▸ hnot⟩)
    have hother := And.intro hthere (primary_ne_backup s slot)
    -- a bad save with a backup beside it leaves three exits, and the backup is a save
    cases hexit with
    | restored htarget' hread' _ _ hbackup' hu =>
        obtain rfl := Option.some.inj (htarget.symm.trans htarget')
        obtain rfl := Except.error.inj (hbad.symm.trans hread')
        obtain rfl := Except.ok.inj (hbackup.symm.trans hbackup')
        refine ⟨_, rfl, ?_, hu⟩
        rw [FileTree.readValue, FileTree.read_eq_ok hu.primary]
        rfl
    | _ => simp_all
  · have htarget : s.target? files slot false = some (s.primary slot) := by
      rw [target?_of_no_legacy hlegacy, isThere_of_read hread]
      rfl
    obtain ⟨f, hf, hnot⟩ := (readSave_stops_iff hread).mpr hstop
    cases hexit with
    | stopped => exact ⟨_, rfl⟩
    | _ => simp_all

/-- A current save that is no document is replaced by the backup. -/
theorem load_of_backup_for_hero :
    let files := heroFiles [(primaryName, .text "broken"),
      (backupName, .document (savesStore.savePayload "hero" { xp := 3 }))]
    slotName? "Hero!" = some "hero" ∧ savesStore.Writable files "hero" ∧
      files.isThere (savesStore.legacy "hero") = false ∧
      ∃ u save, readSave files (savesStore.backup "hero") = .ok save ∧ save.player.xp = 3 ∧
        (savesStore.load files "Hero!" false).perform files =
          ⟨u, [unreadableText "hero" .malformed, restoredText "hero"], .ok (some save.player)⟩ ∧
        u.readValue (savesStore.primary "hero") = .ok save.written := by
  intro files
  have hname : slotName? "Hero!" = some "hero" := by decide +kernel
  have hw : savesStore.Writable files "hero" := by constructor <;> decide +kernel
  have hlegacy : files.isThere (savesStore.legacy "hero") = false := by decide +kernel
  have hbackup := savesStore.saveOf_savePayload "hero" { xp := 3 }
  have hbroken : FileContent.value (.text "broken") = .error .malformed := by decide +kernel
  have hclear : ¬ (FileContent.text "broken").Stops := by
    rintro (h | h | h | ⟨h, -⟩) <;> simp [hbroken] at h
  obtain ⟨u, hload, hvalue, -⟩ :=
    (load_of_backup savesStore files hname hw hbackup hlegacy).2.1 _ _ rfl hclear rfl
  exact ⟨hname, hw, hlegacy, u, _, hbackup, rfl, hload, hvalue⟩

/-- With nothing but a good backup there is a slot, but no save in it. -/
theorem load_can_miss_backup :
    let files := heroFiles [(backupName, .document (savesStore.savePayload "hero" { xp := 3 }))]
    (readSave files (savesStore.backup "hero")).isOk = true ∧
      files.isThere (savesStore.legacy "hero") = false ∧
      savesStore.has files "hero" = .ok true ∧
      ((savesStore.load files "hero" false).perform files).messages = [noSaveText "hero"] ∧
      ((savesStore.load files "hero" false).perform files).answer = .ok none := by
  decide +kernel

/-! ## Loading what was saved -/

theorem performAll_of_answer {α : Type} {plan : SavePlan α} {a : α}
    (h : (plan.perform files).answer = .ok a) :
    files.performAll plan.actions = ((plan.perform files).files, none) ∧ plan.answer = .ok a := by
  unfold SavePlan.perform at h ⊢
  cases hactions : files.performAll plan.actions with
  | mk done fault =>
      rw [hactions] at h
      cases fault with
      | none => exact ⟨rfl, h⟩
      | some f => cases h

theorem location_file (s : SaveStore) (slot : String) {file : String} (h : file ≠ "..") :
    ((s.folder slot).child file).location = (s.folder slot).location ++ [file] :=
  FilePath.location_child _ h

/-- Wherever the old save is copied to, it is the place of no other file of the slot. -/
theorem location_ne_copyTarget (s : SaveStore) (files : FileTree) (slot : String) {file : String}
    (hup : file ≠ "..") (hfile : file ≠ backupName) :
    ((s.folder slot).child file).location ≠
      (files.copyTarget (s.primary slot) (s.backup slot)).location := by
  have hbackup : (s.backup slot).location = (s.folder slot).location ++ [backupName] :=
    s.location_file slot (by decide)
  rw [s.location_file slot hup, FileTree.copyTarget]
  intro h
  split at h
  · have hcopy : (s.primary slot).name = primaryName := by
      simp [FilePath.name, primary, FilePath.child]
    rw [FilePath.location_child _ (by rw [hcopy]; decide), hbackup] at h
    simpa using congrArg List.length h
  · rw [hbackup] at h
    exact hfile (List.cons.inj (List.append_cancel_left h)).1

/-- A new save that was written aside is still there when the old one has been copied. -/
theorem entry_temporary_of_backupActions {other u : FileTree} {content : FileContent}
    {rest : List FileAction}
    (hentry : files.entry (s.temporary slot) = .ok (some (.file content)))
    (h : files.performAll (s.backupActions other slot ++ rest) = (u, none)) :
    ∃ v : FileTree, v.entry (s.temporary slot) = .ok (some (.file content)) ∧
      v.performAll rest = (u, none) := by
  unfold backupActions at h
  split at h
  · obtain ⟨v, hcopy, hrest⟩ := FileTree.exists_perform_of_performAll h
    obtain ⟨old, hwrite⟩ := FileTree.exists_write_of_copy hcopy
    have hne : (s.temporary slot).location ≠
        (files.copyTarget (s.primary slot) (s.backup slot)).location :=
      s.location_ne_copyTarget files slot (by decide) (by decide)
    exact ⟨v, FileTree.entry_of_write_of_ne hwrite hne hentry, hrest⟩
  · exact ⟨files, hentry, h⟩

/-- Whatever the files were: once a save has succeeded, the slot holds it. -/
theorem exists_entry_primary_of_save {p : Player} {label : String} {quiet : Bool}
    (h : ((s.save files name p label quiet).perform files).answer = .ok path) :
    ∃ slot, slotOf name = .ok slot ∧
      ((s.save files name p label quiet).perform files).files.entry (s.primary slot) =
        .ok (some (.file (.document (s.savePayload slot p)))) := by
  obtain ⟨hactions, hanswer⟩ := performAll_of_answer h
  generalize ((s.save files name p label quiet).perform files).files = saved at hactions ⊢
  cases hslot : slotOf name with
  | error f => simp [save, hslot, withSlot, SavePlan.fail] at hanswer
  | ok slot =>
      refine ⟨slot, rfl, ?_⟩
      simp only [save, hslot, withSlot, writeActions, List.cons_append] at hactions
      -- the folder, the new save aside, the copy of the old one, and the new one in its place
      obtain ⟨made, -, hactions⟩ := FileTree.exists_perform_of_performAll hactions
      obtain ⟨written, hwrite, hactions⟩ := FileTree.exists_perform_of_performAll hactions
      obtain ⟨kept, haside, hactions⟩ :=
        entry_temporary_of_backupActions (FileTree.entry_of_write hwrite) hactions
      obtain ⟨done, hrename, hactions⟩ := FileTree.exists_perform_of_performAll hactions
      obtain rfl : done = saved := (Prod.mk.inj hactions).1
      exact FileTree.entry_of_rename haside hrename

theorem load_of_target (hin : s.slotIn files name = .ok slot)
    (htarget : s.target? files slot preferBackup = some path)
    (hread : readSave files path = .ok save) :
    (s.load files name preferBackup).perform files = ⟨files, [], .ok (some save.player)⟩ := by
  simp only [load, hin, withSlot, htarget, loadFrom, hread]
  rfl

/-- Where the current save is a file, it is the one that is loaded. -/
theorem target?_of_read {content : FileContent} (hslot : slotOf name = .ok slot)
    (hread : files.read (s.primary slot) = .ok content) :
    s.slotIn files name = .ok slot ∧ s.target? files slot false = some (s.primary slot) := by
  have hprobe : files.probe (s.primary slot) = .ok (some (.file content)) := by
    rw [FileTree.probe, FileTree.read_eq_ok_iff.mp hread]
  constructor
  · simp only [slotIn, hslot, hprobe, bind, Except.bind]
    rfl
  · simp [target?, isThere_of_read hread]

/-- A current save that can be read is what is loaded. -/
theorem load_of_readSave (hslot : slotOf name = .ok slot)
    (hread : readSave files (s.primary slot) = .ok save) :
    (s.load files name false).perform files = ⟨files, [], .ok (some save.player)⟩ := by
  obtain ⟨content, hcontent⟩ := exists_read_of_readSave hread
  obtain ⟨hin, htarget⟩ := target?_of_read hslot hcontent
  exact load_of_target hin htarget hread

/-- A current save that stops the reading stops the loading. -/
theorem load_of_stopped {content : FileContent} {f : SaveFault} (hslot : slotOf name = .ok slot)
    (hcontent : files.read (s.primary slot) = .ok content)
    (hread : readSave files (s.primary slot) = .error f) (hstop : f.isBadSave = false) :
    (s.load files name false).perform files = ⟨files, [], .error f⟩ := by
  obtain ⟨hin, htarget⟩ := target?_of_read hslot hcontent
  simp only [load, hin, withSlot, htarget, loadFrom, hread, hstop, Bool.not_false, if_true]
  rfl

theorem readSave_of_entry {p : Player}
    (hentry : files.entry path = .ok (some (.file (.document (s.savePayload slot p))))) :
    readSave files path = (reloaded s.config p).map fun q => ⟨s.savePayload slot p, q⟩ := by
  rw [readSave, FileTree.readValue, FileTree.read_eq_ok hentry]
  exact s.saveOf_savePayload slot p

theorem load_of_entry_primary {p : Player} (hslot : slotOf name = .ok slot)
    (hentry : files.entry (s.primary slot) =
      .ok (some (.file (.document (s.savePayload slot p))))) :
    (s.load files name false).perform files =
      ⟨files, [], (reloaded s.config p).map some⟩ := by
  have hread := readSave_of_entry hentry
  have hthere : files.read (s.primary slot) = .ok (.document (s.savePayload slot p)) :=
    FileTree.read_eq_ok hentry
  cases hreloaded : reloaded s.config p with
  | ok q =>
      rw [hreloaded] at hread
      exact load_of_readSave hslot hread
  | error f =>
      rw [hreloaded] at hread
      exact load_of_stopped hslot hthere hread (isBadSave_of_reloaded hreloaded)

/-- Loading a slot right after a save gives the player who comes back from his save. -/
theorem load_of_save {p : Player} {label : String} {quiet : Bool}
    (h : ((s.save files name p label quiet).perform files).answer = .ok path) :
    let saved := ((s.save files name p label quiet).perform files).files
    (s.load saved name false).perform saved = ⟨saved, [], (reloaded s.config p).map some⟩ := by
  obtain ⟨slot, hslot, hentry⟩ := exists_entry_primary_of_save h
  exact load_of_entry_primary hslot hentry

end SaveStore

end Questline
