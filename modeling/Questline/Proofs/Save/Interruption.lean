import Questline.Proofs.Files.Interruption
import Questline.Proofs.Files.Soundness
import Questline.Proofs.Save.Loading

/-!
# Saves that are interrupted

A save makes the folder of its slot, writes the new save aside, copies the old
one over the backup and puts the new one in place.  Until the last of these
steps loading does not see any of it: where there is a current save, it is the
one that is loaded, and where there is none, what is written aside is not
looked at.
-/

namespace Questline

open FilePath (IsPlain nameLimit)

/-- What a plan leaves that is carried out is among what an interruption can leave. -/
theorem SavePlan.interrupted_perform {α : Type} (plan : SavePlan α) (files : FileTree) :
    files.Interrupted plan.actions (plan.perform files).files := by
  have hfiles : (plan.perform files).files = (files.performAll plan.actions).1 := by
    unfold perform
    split
    · next hdone => rw [hdone]
    · next hfailed => rw [hfailed]
  rw [hfiles]
  exact files.interrupted_performAll plan.actions

namespace SaveStore

variable {s : SaveStore} {files u : FileTree} {name slot : String} {p : Player}

/-- How far a save can have come. -/
inductive SaveCut (s : SaveStore) (files : FileTree) (slot : String) (p : Player) :
    FileTree → Prop
  | before : SaveCut s files slot p files
  | made {made : FileTree} (folder : files.ensureFolder (s.folder slot) = .ok made) :
      SaveCut s files slot p made
  | aside {made u : FileTree} {part : FileContent}
      (folder : files.ensureFolder (s.folder slot) = .ok made)
      (written : made.write (s.temporary slot) part = .ok u) : SaveCut s files slot p u
  | kept {made aside u : FileTree} {content part : FileContent}
      (folder : files.ensureFolder (s.folder slot) = .ok made)
      (written : made.write (s.temporary slot) content = .ok aside)
      (there : files.isThere (s.primary slot) = true)
      (copied : aside.write (aside.copyTarget (s.primary slot) (s.backup slot)) part = .ok u) :
      SaveCut s files slot p u
  | done {u : FileTree}
      (entry : u.entry (s.primary slot) = .ok (some (.file (.document (s.savePayload slot p))))) :
      SaveCut s files slot p u

theorem save_cut (hbase : files.isFolder s.base = true) (hslot : slotOf name = .ok slot)
    {label : String} {quiet : Bool}
    (h : files.Interrupted (s.save files name p label quiet).actions u) :
    s.SaveCut files slot p u := by
  have hfolder : files.makeFolders (s.folder slot) = files.ensureFolder (s.folder slot) :=
    FileTree.makeFolders_child_of_isFolder hbase slot
  have hcopy : ∀ t : FileTree, (s.temporary slot).location ≠
      (t.copyTarget (s.primary slot) (s.backup slot)).location := fun t =>
    s.location_ne_copyTarget t slot (by decide) (by decide)
  simp only [save, hslot, withSlot, writeActions, backupActions, List.cons_append] at h
  cases h with
  | before => exact .before
  | within part =>
      -- nothing is missing above the folder of the slot
      cases part with
      | madeAbove failed missing =>
          exact absurd missing (FileTree.kind_ne_missing_of_ensureFolder hbase failed)
  | @after _ _ made _ _ done h =>
      have hmade : files.ensureFolder (s.folder slot) = .ok made := hfolder ▸ done
      cases h with
      | before => exact .made hmade
      | within part =>
          cases part with
          | torn written => exact .aside hmade written
      | @after _ _ aside _ _ written h =>
          have haside := FileTree.entry_of_write written
          split at h
          · next there =>
              cases h with
              | before => exact .aside hmade written
              | within part =>
                  cases part with
                  | tornCopy read copied => exact .kept hmade written there copied
              | @after _ _ kept _ _ done h =>
                  obtain ⟨old, copied⟩ := FileTree.exists_write_of_copy done
                  have hkept := FileTree.entry_of_write_of_ne copied (hcopy aside) haside
                  cases h with
                  | before => exact .kept hmade written there copied
                  | within part => cases part
                  | after renamed h =>
                      cases h
                      exact .done (FileTree.entry_of_rename hkept renamed)
          · cases h with
            | before => exact .aside hmade written
            | within part => cases part
            | after renamed h =>
                cases h
                exact .done (FileTree.entry_of_rename haside renamed)

theorem readSave_congr {t u : FileTree} {path : FilePath} (h : u.read path = t.read path) :
    readSave u path = readSave t path := by
  rw [readSave, readSave, FileTree.readValue, FileTree.readValue, h]

/-! ## With a current save -/

theorem location_ne_folder (s : SaveStore) (slot : String) {file : String} (h : file ≠ "..") :
    ((s.folder slot).child file).location ≠ (s.folder slot).location := by
  rw [s.location_file slot h]
  simp

/-- The current save is there until the new one is in its place. -/
theorem SaveCut.readSave_primary {save : Save} (h : s.SaveCut files slot p u)
    (hprimary : readSave files (s.primary slot) = .ok save) :
    readSave u (s.primary slot) = .ok save ∨
      u.entry (s.primary slot) = .ok (some (.file (.document (s.savePayload slot p)))) := by
  obtain ⟨content, hread⟩ := exists_read_of_readSave hprimary
  have hentry := FileTree.read_eq_ok_iff.mp hread
  have hmade : ∀ {made}, files.ensureFolder (s.folder slot) = .ok made →
      made.entry (s.primary slot) = .ok (some (.file content)) := fun folder =>
    FileTree.entry_of_ensureFolder_of_ne folder (s.location_ne_folder slot (by decide)) hentry
  have haside : ∀ {made aside : FileTree} {part}, files.ensureFolder (s.folder slot) = .ok made →
      made.write (s.temporary slot) part = .ok aside →
        aside.entry (s.primary slot) = .ok (some (.file content)) := by
    intro made aside part folder written
    refine FileTree.entry_of_write_of_ne written ?_ (hmade folder)
    rw [primary, temporary, s.location_file slot (by decide), s.location_file slot (by decide)]
    simp [primaryName, temporaryName]
  have hsame : u.entry (s.primary slot) = .ok (some (.file content)) →
      readSave u (s.primary slot) = .ok save := by
    intro hu
    rw [readSave_congr (t := files), hprimary]
    rw [FileTree.read_eq_ok hu, hread]
  -- the folder, the file aside and the backup all stand elsewhere
  cases h with
  | before => exact .inl hprimary
  | made folder => exact .inl (hsame (hmade folder))
  | aside folder written => exact .inl (hsame (haside folder written))
  | kept folder written there copied =>
      refine .inl (hsame ?_)
      exact FileTree.entry_of_write_of_ne copied
        (s.location_ne_copyTarget _ slot (by decide) (by decide)) (haside folder written)
  | done entry => exact .inr entry

/-! ## Without a current save -/

/-- The files of a slot that loading looks for are as they were. -/
structure Unseen (s : SaveStore) (files : FileTree) (slot : String) (u : FileTree) : Prop where
  probe : ∀ file ∈ [primaryName, backupName, legacyName],
    u.probe ((s.folder slot).child file) = files.probe ((s.folder slot).child file)
  read : ∀ file ∈ [primaryName, backupName, legacyName],
    u.read ((s.folder slot).child file) = files.read ((s.folder slot).child file)

theorem Unseen.refl : s.Unseen files slot files := ⟨fun _ _ => rfl, fun _ _ => rfl⟩

theorem Unseen.trans {v : FileTree} (h : s.Unseen files slot u) (h' : s.Unseen u slot v) :
    s.Unseen files slot v where
  probe := fun file hfile => (h'.probe file hfile).trans (h.probe file hfile)
  read := fun file hfile => (h'.read file hfile).trans (h.read file hfile)

theorem isThere_congr {t u : FileTree} {path : FilePath} (h : u.probe path = t.probe path) :
    u.isThere path = t.isThere path := by
  have hprobe : ∀ t : FileTree, t.isThere path = (t.probe path).toOption.any Option.isSome := by
    intro t
    unfold FileTree.isThere FileTree.entry? FileTree.probe
    cases t.entry path with
    | ok e => rfl
    | error f =>
        obtain ⟨kind, path⟩ := f
        cases kind <;> rfl
  rw [hprobe, hprobe, h]

theorem Unseen.slotIn (h : s.Unseen files slot u) (hslot : slotOf name = .ok slot) :
    s.slotIn u name = s.slotIn files name := by
  have hprimary : u.probe (s.primary slot) = files.probe (s.primary slot) :=
    h.probe primaryName (by simp)
  simp only [SaveStore.slotIn, hslot, bind, Except.bind, hprimary]

theorem Unseen.target? (h : s.Unseen files slot u) :
    s.target? u slot false = s.target? files slot false := by
  have hprimary : u.isThere (s.primary slot) = files.isThere (s.primary slot) :=
    isThere_congr (h.probe primaryName (by simp))
  have hlegacy : u.isThere (s.legacy slot) = files.isThere (s.legacy slot) :=
    isThere_congr (h.probe legacyName (by simp))
  simp only [SaveStore.target?, Bool.false_eq_true, if_false, List.find?, hprimary, hlegacy]

theorem Unseen.readSave_target (h : s.Unseen files slot u) {path : FilePath}
    (htarget : s.target? files slot false = some path) : readSave u path = readSave files path := by
  have hmem := List.mem_of_find?_eq_some htarget
  simp only [Bool.false_eq_true, if_false, List.mem_cons, List.not_mem_nil, or_false] at hmem
  rcases hmem with rfl | rfl | rfl
  · exact readSave_congr (h.read primaryName (by simp))
  · exact readSave_congr (h.read primaryName (by simp))
  · exact readSave_congr (h.read legacyName (by simp))

theorem answer_restore (hfiles : s.Writable files slot) (hu : s.Writable u slot)
    (hbackup : readSave u (s.backup slot) = readSave files (s.backup slot)) (f : SaveFault) :
    ((s.restore u slot f).perform u).answer = ((s.restore files slot f).perform files).answer := by
  cases hread : readSave files (s.backup slot) with
  | ok save =>
      obtain ⟨_, hrestored, -⟩ := exists_perform_restore hu (hbackup.trans hread) f
      obtain ⟨_, hbefore, -⟩ := exists_perform_restore hfiles hread f
      rw [hrestored, hbefore]
  | error g =>
      simp only [restore, hbackup, hread]
      split <;> rfl

/-- Loading gives the same answer, if the backup can be put in place wherever there is one. -/
theorem Unseen.answer_load (h : s.Unseen files slot u) (hslot : slotOf name = .ok slot)
    (hw : files.isThere (s.backup slot) = true → s.Writable files slot ∧ s.Writable u slot) :
    ((s.load u name false).perform u).answer =
      ((s.load files name false).perform files).answer := by
  have hthere : u.isThere (s.backup slot) = files.isThere (s.backup slot) :=
    isThere_congr (h.probe backupName (by simp))
  have hbackup : readSave u (s.backup slot) = readSave files (s.backup slot) :=
    readSave_congr (h.read backupName (by simp))
  rw [load, load, h.slotIn hslot]
  cases hin : s.slotIn files name with
  | error f => rfl
  | ok slot' =>
      obtain rfl : slot = slot' := by
        simp only [SaveStore.slotIn, hslot, bind, Except.bind] at hin
        split at hin
        · cases hin
        · exact Except.ok.inj hin
      simp only [withSlot, h.target?]
      cases htarget : s.target? files slot false with
      | none => rfl
      | some path =>
          simp only [loadFrom, h.readSave_target htarget, hthere]
          cases hread : readSave files path with
          | ok save => rfl
          | error f =>
              -- only the restoring of a backup looks at the files once more
              dsimp only
              split
              · rfl
              · split
                · rfl
                · next hother =>
                    have hfound : files.isThere (s.backup slot) = true := by
                      simp only [Bool.or_eq_true, Bool.not_eq_true', decide_eq_true_eq] at hother
                      simpa using fun h => hother (.inl h)
                    obtain ⟨hfiles, hu⟩ := hw hfound
                    exact answer_restore hfiles hu hbackup f

theorem Unseen.of_entry
    (h : ∀ file ∈ [primaryName, backupName, legacyName],
      u.entry ((s.folder slot).child file) = files.entry ((s.folder slot).child file)) :
    s.Unseen files slot u where
  probe := by
    intro file hfile
    rw [FileTree.probe, FileTree.probe, h file hfile]
  read := by
    intro file hfile
    rw [FileTree.read, FileTree.read, h file hfile]

theorem isPlain_of_mem {file : String} (h : file ∈ [primaryName, backupName, legacyName]) :
    IsPlain nameLimit file ∧ file.utf8ByteSize ≤ temporaryName.utf8ByteSize ∧
      file ≠ temporaryName := by
  simp only [List.mem_cons, List.not_mem_nil, or_false] at h
  rcases h with rfl | rfl | rfl
  · exact ⟨isPlain_primaryName.mono (by decide), by decide, by decide⟩
  · exact ⟨isPlain_backupName.mono (by decide), by decide, by decide⟩
  · exact ⟨isPlain_legacyName.mono (by decide), by decide, by decide⟩

/-- What is written aside is not looked at. -/
theorem unseen_of_write {part : FileContent} (written : files.write (s.temporary slot) part = .ok u) :
    s.Unseen files slot u := by
  refine .of_entry fun file hfile => ?_
  obtain ⟨hplain, hshort, hne⟩ := isPlain_of_mem hfile
  obtain ⟨htakes, -⟩ := FileTree.takes_of_write written
  obtain ⟨-, hroom, -, -⟩ := FileTree.obstacle?_eq_none_iff.mp htakes.clear
  have hclear : files.obstacle? ((s.folder slot).child file) = none :=
    FileTree.obstacle?_sibling hplain
      (Nat.le_trans (FilePath.text_child_size_mono _ hshort) hroom) htakes.clear
  have hlocation : ((s.folder slot).child file).location ≠ (s.temporary slot).location := by
    rw [temporary, s.location_file slot hplain.ne_up, s.location_file slot (by decide)]
    simpa using hne
  have hentry := FileTree.entry_of_clear hclear
  rw [hentry, FileTree.entry_of_write_of_ne written hlocation hentry]

/-- A folder that was made for the slot has nothing in it. -/
theorem unseen_of_ensureFolder (hsound : files.Sound) (hbase : files.isFolder s.base = true)
    (hname : slotName? name = some slot)
    (made : files.ensureFolder (s.folder slot) = .ok u) :
    s.Unseen files slot u ∧ (u = files ∨ files.isThere (s.backup slot) = false) := by
  have hopen : u.isFolder (s.folder slot) = true := FileTree.isFolder_of_ensureFolder made
  obtain ⟨-, rfl⟩ | ⟨hclear, hnothing, rfl⟩ := FileTree.ensureFolder_eq_ok made
  · exact ⟨.refl, .inl rfl⟩
  have hup : slot ≠ ".." := ne_up_of_slotName? hname
  have hslot : IsPlain nameLimit slot :=
    ⟨hup, FileTree.size_le_of_obstacle?_child hbase hup hclear, no_null_of_slotName? hname⟩
  have hlocation : (s.folder slot).location = s.base.location ++ [slot] :=
    FilePath.location_child _ hup
  -- before, the way to a file is missing; afterwards it leads into an empty folder
  have hmissing : ∀ file ∈ [primaryName, backupName, legacyName],
      ((s.folder slot).child file).text.utf8ByteSize ≤ FilePath.textLimit →
        files.entry ((s.folder slot).child file) =
          .error ⟨.missing, (s.folder slot).child file⟩ := by
    intro file hfile hroom
    rw [hlocation] at hnothing
    exact FileTree.entry_child_child_of_none hbase hslot (isPlain_of_mem hfile).1.no_null hroom
      hnothing
  have hempty : ∀ file ∈ [primaryName, backupName, legacyName],
      ((s.folder slot).child file).text.utf8ByteSize ≤ FilePath.textLimit →
        (files.put (s.folder slot).location .folder).entry ((s.folder slot).child file) =
          .ok none := by
    intro file hfile hroom
    obtain ⟨hplain, -, -⟩ := isPlain_of_mem hfile
    have hnot : files.lookup? (s.folder slot).location ≠ some .folder := by simp [hnothing]
    rw [FileTree.entry_child hopen hplain hroom, FileTree.lookup?_put_of_ne _ (by simp),
      hsound.lookup?_concat_eq_none hnot]
  refine ⟨⟨fun file hfile => ?_, fun file hfile => ?_⟩, .inr ?_⟩
  · -- a path that is too long is the same fault in both
    by_cases hroom : ((s.folder slot).child file).text.utf8ByteSize ≤ FilePath.textLimit
    · rw [FileTree.probe, FileTree.probe, hmissing file hfile hroom, hempty file hfile hroom]
    · rw [FileTree.probe, FileTree.probe, FileTree.entry_eq_of_long _ files (Nat.not_le.mp hroom)]
  · by_cases hroom : ((s.folder slot).child file).text.utf8ByteSize ≤ FilePath.textLimit
    · rw [FileTree.read, FileTree.read, hmissing file hfile hroom, hempty file hfile hroom]
      rfl
    · rw [FileTree.read, FileTree.read, FileTree.entry_eq_of_long _ files (Nat.not_le.mp hroom)]
  · rw [Bool.eq_false_iff]
    intro hthere
    unfold FileTree.isThere FileTree.entry? at hthere
    cases hentry : files.entry (s.backup slot) with
    | error f => simp [hentry] at hthere
    | ok e =>
        obtain ⟨hway, -⟩ := FileTree.clear_of_entry_eq_ok hentry
        obtain ⟨-, hroom, -, -⟩ := FileTree.obstacle?_eq_none_iff.mp hway
        have hnone := hmissing backupName (by simp) hroom
        rw [← backup, hentry] at hnone
        contradiction

/-- Where something was written aside, the backup can be put in place, before and after. -/
theorem writable_of_write {part : FileContent}
    (written : files.write (s.temporary slot) part = .ok u)
    (habsent : files.isThere (s.primary slot) = false) :
    s.Writable files slot ∧ s.Writable u slot := by
  obtain ⟨htakes, -⟩ := FileTree.takes_of_write written
  obtain ⟨-, hroom, -, -⟩ := FileTree.obstacle?_eq_none_iff.mp htakes.clear
  have hprimary := (unseen_of_write written).probe primaryName (by simp)
  have haside : u.isFolder (s.temporary slot) = false := by
    rw [FileTree.isFolder, FileTree.entry?, FileTree.entry_of_write written]
    rfl
  refine ⟨⟨hroom, ?_, isFolder_of_not_isThere habsent⟩, ⟨hroom, haside, ?_⟩⟩
  · rw [Bool.eq_false_iff]
    intro hfolder
    exact htakes.not_folder (FileTree.isFolder_iff.mp hfolder).2
  · exact isFolder_of_not_isThere ((isThere_congr hprimary).trans habsent)

/-- Where there is no current save, loading sees nothing of the new one until that is in place. -/
theorem SaveCut.answer_load (h : s.SaveCut files slot p u) (hsound : files.Sound)
    (hbase : files.isFolder s.base = true) (hname : slotName? name = some slot)
    (habsent : files.isThere (s.primary slot) = false) :
    ((s.load u name false).perform u).answer =
        ((s.load files name false).perform files).answer ∨
      u.entry (s.primary slot) = .ok (some (.file (.document (s.savePayload slot p)))) := by
  have hslot : slotOf name = .ok slot := slotOf_eq_ok_iff.mpr hname
  cases h with
  | before => exact .inl rfl
  | made folder =>
      obtain ⟨hunseen, rfl | hnothing⟩ := unseen_of_ensureFolder hsound hbase hname folder
      · exact .inl rfl
      · exact .inl (hunseen.answer_load hslot fun hthere => by simp [hnothing] at hthere)
  | aside folder written =>
      obtain ⟨hunseen, hmade⟩ := unseen_of_ensureFolder hsound hbase hname folder
      refine .inl ((hunseen.trans (unseen_of_write written)).answer_load hslot fun hthere => ?_)
      rcases hmade with rfl | hnothing
      · exact writable_of_write written habsent
      · simp [hnothing] at hthere
  | kept folder written there copied => simp [habsent] at there
  | done entry => exact .inr entry

/-! ## Interrupted saves -/

/-- Wherever a save is interrupted, the slot loads afterwards as it did before, or with the player
who comes back from the save that was being made.  The current save of the slot was missing, or one
that can be read, when that began; the folder of the slots was there, and the files were sound.
What a save leaves that runs to its end, or fails, is among what an interruption can leave. -/
theorem load_of_interrupted_save (s : SaveStore) {files : FileTree} (hsound : files.Sound)
    (hbase : files.isFolder s.base = true) (hname : slotName? name = some slot)
    (hprimary : files.isThere (s.primary slot) = false ∨
      ∃ save, readSave files (s.primary slot) = .ok save)
    (p : Player) (label : String) (quiet : Bool) {u : FileTree}
    (hu : files.Interrupted (s.save files name p label quiet).actions u) :
    let before := ((s.load files name false).perform files).answer
    let later := ((s.load u name false).perform u).answer
    (later = before ∨ later = (reloaded s.config p).map some) ∧
      files.Interrupted (s.save files name p label quiet).actions
        ((s.save files name p label quiet).perform files).files := by
  intro before later
  refine ⟨?_, (s.save files name p label quiet).interrupted_perform files⟩
  have hslot : slotOf name = .ok slot := slotOf_eq_ok_iff.mpr hname
  have hcut : s.SaveCut files slot p u := save_cut hbase hslot hu
  have hnew : u.entry (s.primary slot) = .ok (some (.file (.document (s.savePayload slot p)))) →
      later = (reloaded s.config p).map some := fun hentry =>
    congrArg Saved.answer (load_of_entry_primary hslot hentry)
  rcases hprimary with habsent | ⟨save, hread⟩
  · exact (hcut.answer_load hsound hbase hname habsent).imp id hnew
  · refine (hcut.readSave_primary hread).imp (fun hkept => ?_) hnew
    have hbefore : before = .ok (some save.player) :=
      congrArg Saved.answer (load_of_readSave hslot hread)
    rw [hbefore]
    exact congrArg Saved.answer (load_of_readSave hslot hkept)

/-- The backup is half overwritten when the second save of the hero is interrupted; the first one is
still loaded. -/
theorem load_of_interrupted_save_for_hero :
    let first := FileContent.document (savesStore.savePayload "hero" { xp := 1 })
    let second := FileContent.document (savesStore.savePayload "hero" { xp := 2 })
    let files := heroFiles [(primaryName, first)]
    let u := heroFiles [(primaryName, first), (temporaryName, second), (backupName, .text "\x7b")]
    let later := ((savesStore.load u "Hero!" false).perform u).answer
    files.Sound ∧ files.isFolder savesStore.base = true ∧ slotName? "Hero!" = some "hero" ∧
      (∃ save, readSave files (savesStore.primary "hero") = .ok save) ∧
      files.Interrupted (savesStore.save files "Hero!" { xp := 2 } "" true).actions u ∧
      (later = ((savesStore.load files "Hero!" false).perform files).answer ∨
        later = (reloaded savesStore.config { xp := 2 }).map some) ∧
      later.map (fun found => found.map (·.xp)) = .ok (some 1) := by
  intro first second files u later
  have hname : slotName? "Hero!" = some "hero" := by decide +kernel
  have hmade : ((⟨[]⟩ : FileTree).performAll
      [.makeFolders (savesStore.folder "hero"), .write (savesStore.primary "hero") first]).1 =
        files := rfl
  have hsound : files.Sound := hmade ▸ FileTree.sound_nil.performAll _
  have hbase : files.isFolder savesStore.base = true := by decide +kernel
  have hread := savesStore.saveOf_savePayload "hero" { xp := 1 }
  have hthere : files.isThere (savesStore.primary "hero") = true := by decide +kernel
  have hu : files.Interrupted (savesStore.save files "Hero!" { xp := 2 } "" true).actions u := by
    simp only [save, slotOf_eq_ok_iff.mpr hname, withSlot, writeActions, backupActions, hthere]
    exact .after rfl (.after rfl (.within (.tornCopy rfl rfl)))
  exact ⟨hsound, hbase, hname, ⟨_, hread⟩, hu,
    (load_of_interrupted_save savesStore hsound hbase hname (.inr ⟨_, hread⟩) { xp := 2 } "" true
      hu).1,
    by decide +kernel⟩

end SaveStore

end Questline
