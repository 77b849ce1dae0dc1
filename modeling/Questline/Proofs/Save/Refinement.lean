import Questline.Proofs.Files.Picture
import Questline.Proofs.Player.Sheet
import Questline.Proofs.Save.Migrating
import Questline.Proofs.Save.Shelf
import Questline.Proofs.Table

/-!
# Slots refine a shelf

The files of a save store show a shelf: a folder for each slot, in it a save of
the last player and perhaps, as a backup, one of the player before.  Every
action keeps it so and is answered as by the shelf.
-/

namespace Questline

open FilePath (IsPlain nameLimit shortLimit)

namespace SavePlan

variable {α β : Type}

theorem perform_map (f : α → β) (plan : SavePlan α) (files : FileTree) :
    (plan.map f).perform files =
      ⟨(plan.perform files).files, (plan.perform files).messages,
        (plan.perform files).answer.map f⟩ := by
  simp only [perform, map]
  cases files.performAll plan.actions with
  | mk done fault => cases fault <;> rfl

end SavePlan

namespace SaveStore

variable {s : SaveStore} {shelf : Shelf} {start files : FileTree} {slot name : String}
  {kept : Kept}

/-! ## Names of slots -/

theorem isSlotChar_of_mem (h : slotName? name = some slot) {c : Char} (hc : c ∈ slot.toList) :
    isSlotChar c = true := by
  rw [slotName?] at h
  split at h
  · cases h
  · have hslot := Option.some.inj h
    rw [← hslot, String.toList_ofList, slotChars] at hc
    exact (List.mem_filter.mp hc).2

theorem ne_up_of_slotName? (h : slotName? name = some slot) : slot ≠ ".." := by
  rintro rfl
  have hdot : isSlotChar '.' = true := isSlotChar_of_mem h (by decide)
  exact absurd hdot (by decide)

theorem no_null_of_slotName? (h : slotName? name = some slot) : '\x00' ∉ slot.toList := by
  intro hnull
  have hchar : isSlotChar '\x00' = true := isSlotChar_of_mem h hnull
  exact absurd hchar (by decide)

theorem isPlain_of_shelfSlot {path : String → FilePath} (h : shelfSlot path name = .ok slot) :
    IsPlain nameLimit slot := by
  have hname := slotName?_of_shelfSlot h
  refine ⟨ne_up_of_slotName? hname, ?_, no_null_of_slotName? hname⟩
  simp only [shelfSlot, slotOf_eq_ok_iff.mpr hname] at h
  split at h
  · cases h
  · next hsize => exact Nat.not_lt.mp hsize

theorem isPlain_primaryName : IsPlain shortLimit primaryName := by
  constructor <;> decide

theorem isPlain_temporaryName : IsPlain shortLimit temporaryName := by
  constructor <;> decide

theorem isPlain_backupName : IsPlain shortLimit backupName := by
  constructor <;> decide

theorem isPlain_legacyName : IsPlain shortLimit legacyName := by
  constructor <;> decide

/-- In a folder that is there, looking for a name finds the slot unless it is too long. -/
theorem slotIn_eq_shelfSlot (hbase : files.isFolder s.base = true)
    (hroom : ∀ slot, slotName? name = some slot → slot.utf8ByteSize ≤ nameLimit →
      (s.primary slot).text.utf8ByteSize ≤ FilePath.textLimit) :
    s.slotIn files name = shelfSlot s.primary name := by
  cases hname : slotOf name with
  | error f => simp only [slotIn, shelfSlot, hname, bind, Except.bind]
  | ok slot =>
      have hslot := slotOf_eq_ok_iff.mp hname
      have hup := ne_up_of_slotName? hslot
      have hnull := no_null_of_slotName? hslot
      by_cases hsize : nameLimit < slot.utf8ByteSize
      · have hprobe : files.probe (s.primary slot) = .error ⟨.nameTooLong, s.primary slot⟩ := by
          rw [FileTree.probe, primary, folder, FileTree.entry_child_child_of_long hbase hup hnull
            hsize isPlain_primaryName.no_null]
        simp only [slotIn, shelfSlot, hname, bind, Except.bind, hprobe, hsize, if_true]
        rfl
      · have hshort := Nat.not_lt.mp hsize
        have hplain : IsPlain nameLimit primaryName := isPlain_primaryName.mono (by decide)
        obtain ⟨e, hprobe⟩ := FileTree.exists_probe_child_child_eq_ok hbase ⟨hup, hshort, hnull⟩
          hplain (hroom slot hslot hshort)
        simp only [slotIn, shelfSlot, hname, bind, Except.bind, primary, folder, hprobe, hsize,
          if_false]
        rfl

/-! ## Saves that are read back -/

theorem levels_optionalText (s : Option String) : (Player.optionalText s).levels = 0 := by
  cases s <;> rfl

theorem levelsOfMembers_toTable (stats : Stats) : Json.levelsOfMembers stats.toTable = 0 := rfl

theorem levels_toJson (p : Player) : p.toJson.levels = (Json.obj p.otherStats).levels + 1 := by
  simp only [Player.toJson, Player.variablesJson, Player.statsJson, Json.levels,
    Json.levelsOfMembers, Json.levelsOfMembers_append, Json.levelsOfList_texts,
    Json.levelsOfMembers_texts, levelsOfMembers_toTable, levels_optionalText]
  omega

theorem isCopyable_savePayload (s : SaveStore) (slot : String) (p : Player) :
    (s.savePayload slot p).isCopyable = p.isRestorable := by
  have hsheet : (savedPlayer s.config p).toJson.levels = (Json.obj p.otherStats).levels + 1 :=
    levels_toJson (savedPlayer s.config p)
  have hlevels : (s.savePayload slot p).levels = (Json.obj p.otherStats).levels + 3 := by
    simp only [savePayload, saveMetadata, Json.levels, Json.levelsOfMembers, levels_optionalText,
      hsheet]
    omega
  rw [Json.isCopyable, hlevels, Player.isRestorable]

theorem currentSave_savePayload (spell : Spelling) (s : SaveStore) (slot : String) (p : Player) :
    currentSave spell (s.savePayload slot p) =
      if p.isRestorable then .ok (s.savePayload slot p)
      else .error (.migration (.fault .tooDeep)) := by
  have hcurrent : Migration.IsOfSchema schema (s.savePayload slot p) := ⟨rfl, rfl⟩
  rw [currentSave, Migration.migrateSpelt_of_current spell hcurrent, isCopyable_savePayload]
  cases p.isRestorable <;> rfl

theorem ofJson_savedPlayer (config : Config) (p : Player) :
    Player.ofJson (savedPlayer config p).toJson =
      { savedPlayer config p with leveledUp := false } := by
  rw [Player.ofJson_toJson]
  simp [savedPlayer, Player.repaired]

/-- A save is read back as it was written, with the player who comes back from it. -/
theorem saveOf_savePayload (s : SaveStore) (slot : String) (p : Player) :
    saveOf (s.savePayload slot p) =
      (reloaded s.config p).map fun q => ⟨s.savePayload slot p, q⟩ := by
  have hplayer : playerOf (s.savePayload slot p) =
      { savedPlayer s.config p with leveledUp := false } := ofJson_savedPlayer s.config p
  rw [saveOf, currentSave_savePayload, currentSave_savePayload, reloaded]
  cases p.isRestorable with
  | true => simp only [if_true, bind, Except.bind, pure, Except.pure, hplayer, Except.map]
  | false => rfl

/-! ## What the files show -/

/-- The file of a name in the folder of a slot. -/
def fileOf (s : SaveStore) (slot : String) (kept : Kept) (name : String) : Option FileEntry :=
  if name = primaryName then some (.file (.document (s.savePayload slot kept.last)))
  else if name = backupName then
    kept.previous.map fun p => .file (.document (s.savePayload slot p))
  else none

def picture (s : SaveStore) (shelf : Shelf) : Picture
  | [] => none
  | [slot] => (Table.get? slot shelf).map fun _ => .folder
  | [slot, name] => (Table.get? slot shelf).bind fun kept => s.fileOf slot kept name
  | _ => none

/-- The files show a shelf. -/
structure Mirrors (s : SaveStore) (start : FileTree) (shelf : Shelf) (files : FileTree) : Prop where
  depicts : start.Depicts s.base files shelf.keys (s.picture shelf)
  isPlain : ∀ slot ∈ shelf.keys, IsPlain nameLimit slot

@[simp] theorem fileOf_primaryName (s : SaveStore) (slot : String) (kept : Kept) :
    s.fileOf slot kept primaryName = some (.file (.document (s.savePayload slot kept.last))) := by
  simp [fileOf]

@[simp] theorem fileOf_backupName (s : SaveStore) (slot : String) (kept : Kept) :
    s.fileOf slot kept backupName =
      kept.previous.map fun p => .file (.document (s.savePayload slot p)) := by
  simp [fileOf, backupName, primaryName]

theorem fileOf_eq_none (s : SaveStore) (slot : String) (kept : Kept)
    (hprimary : name ≠ primaryName) (hbackup : name ≠ backupName) :
    s.fileOf slot kept name = none := by
  rw [fileOf, if_neg hprimary, if_neg hbackup]

@[simp] theorem fileOf_legacyName (s : SaveStore) (slot : String) (kept : Kept) :
    s.fileOf slot kept legacyName = none :=
  s.fileOf_eq_none slot kept (by decide) (by decide)

@[simp] theorem fileOf_temporaryName (s : SaveStore) (slot : String) (kept : Kept) :
    s.fileOf slot kept temporaryName = none :=
  s.fileOf_eq_none slot kept (by decide) (by decide)

theorem fileOf_ne_folder (s : SaveStore) (slot : String) (kept : Kept) (name : String) :
    s.fileOf slot kept name ≠ some .folder := by
  unfold fileOf
  split
  · simp
  · split
    · cases kept.previous <;> simp
    · simp

theorem picture_congr {other : Shelf} (h : Table.get? slot shelf = Table.get? slot other)
    (rest : List String) : s.picture shelf (slot :: rest) = s.picture other (slot :: rest) := by
  cases rest with
  | nil => simp only [picture, h]
  | cons name rest => cases rest <;> simp only [picture, h]

/-- The picture of a shelf with a player put on it, drawn from a picture in which the save is still
written aside and what it replaces is the backup already. -/
theorem picture_put {look : Picture} (p : Player) (hfolder : look [slot] = some .folder)
    (hbackup : ∀ name, name ≠ primaryName → name ≠ temporaryName →
      look [slot, name] = s.fileOf slot ⟨p, (Table.get? slot shelf).map (·.last)⟩ name)
    (hdeep : ∀ name more rest, look (slot :: name :: more :: rest) = none)
    (hothers : ∀ other rest, other ≠ slot →
      look (other :: rest) = s.picture shelf (other :: rest))
    (other : String) (rest : List String) :
    Function.update
        (fun place => if [slot, temporaryName].isPrefixOf place then none else look place)
        [slot, primaryName] (some (.file (.document (s.savePayload slot p)))) (other :: rest) =
      s.picture (shelf.put slot p) (other :: rest) := by
  by_cases hother : other = slot
  · rw [hother]
    cases rest with
    | nil => simp [picture, Shelf.put, hfolder]
    | cons name rest =>
        cases rest with
        | nil =>
            simp only [picture, Shelf.put, Table.get?_set_self, Option.bind_some]
            by_cases hprimary : name = primaryName
            · simp [hprimary]
            · by_cases htemporary : name = temporaryName
              · have hne : temporaryName ≠ primaryName := by decide
                simp [htemporary, hne]
              · simp [hprimary, Ne.symm htemporary, hbackup name hprimary htemporary]
        | cons more rest => simp [picture, hdeep]
  · have hget : Table.get? other (shelf.put slot p) = Table.get? other shelf :=
      Table.get?_set_of_ne hother _ shelf
    rw [picture_congr hget]
    simp [hother, Ne.symm hother, hothers other rest hother]

theorem picture_deep (s : SaveStore) (shelf : Shelf) (slot name more : String)
    (rest : List String) : s.picture shelf (slot :: name :: more :: rest) = none := rfl

/-- The picture of a shelf without a slot. -/
theorem picture_erase (s : SaveStore) (shelf : Shelf) (slot other : String) (rest : List String) :
    (if [slot].isPrefixOf (other :: rest) then none else s.picture shelf (other :: rest)) =
      s.picture (Table.erase slot shelf) (other :: rest) := by
  by_cases hother : other = slot
  · rw [hother]
    cases rest with
    | nil => simp [picture]
    | cons name rest => cases rest <;> simp [picture]
  · rw [picture_congr (Table.get?_erase_of_ne hother shelf)]
    simp [Ne.symm hother]

namespace Mirrors

theorem isPlain_of_get? (m : s.Mirrors start shelf files) (h : Table.get? slot shelf = some kept) :
    IsPlain nameLimit slot := by
  refine m.isPlain slot ?_
  by_contra hmem
  have hnone : Table.get? slot shelf = none := by
    refine Table.get?_eq_none_iff.mpr ?_
    rintro entry hentry rfl
    exact hmem (List.mem_map_of_mem hentry)
  rw [h] at hnone
  contradiction

theorem isFolder_folder (hv : start.Vacant s.base) (m : s.Mirrors start shelf files)
    (hslot : IsPlain nameLimit slot) :
    files.isFolder (s.folder slot) = (Table.get? slot shelf).isSome := by
  rw [folder, m.depicts.isFolder_slot hv hslot, picture]
  cases Table.get? slot shelf <;> rfl

theorem isThere_folder (hv : start.Vacant s.base) (m : s.Mirrors start shelf files)
    (hslot : IsPlain nameLimit slot) :
    files.isThere (s.folder slot) = (Table.get? slot shelf).isSome := by
  rw [FileTree.isThere, FileTree.entry?, folder, m.depicts.entry_slot hv hslot, picture]
  exact Option.isSome_map

theorem entry?_file (hv : start.Vacant s.base) (m : s.Mirrors start shelf files)
    (hslot : IsPlain nameLimit slot) (hname : IsPlain shortLimit name) :
    files.entry? ((s.folder slot).child name) =
      (Table.get? slot shelf).bind fun kept => s.fileOf slot kept name := by
  cases hkept : Table.get? slot shelf with
  | none =>
      have hnone : s.picture shelf [slot] = none := by simp [picture, hkept]
      rw [FileTree.entry?, folder, m.depicts.entry_file_of_none hv hslot hname hnone]
      rfl
  | some kept =>
      have hfolder : s.picture shelf [slot] = some .folder := by simp [picture, hkept]
      rw [FileTree.entry?, folder, m.depicts.entry_file hv hslot hname hfolder]
      simp only [picture, hkept]

theorem isThere_file (hv : start.Vacant s.base) (m : s.Mirrors start shelf files)
    (hslot : IsPlain nameLimit slot) (hname : IsPlain shortLimit name) :
    files.isThere ((s.folder slot).child name) =
      ((Table.get? slot shelf).bind fun kept => s.fileOf slot kept name).isSome := by
  rw [FileTree.isThere, m.entry?_file hv hslot hname]

/-- Looking for a name finds the slot, unless it is too long. -/
theorem slotIn_eq_shelfSlot (hv : start.Vacant s.base) (m : s.Mirrors start shelf files)
    (name : String) : s.slotIn files name = shelfSlot s.primary name :=
  SaveStore.slotIn_eq_shelfSlot (m.depicts.isFolder_base hv) fun _ hname hsize =>
    hv.room_file ⟨ne_up_of_slotName? hname, hsize, no_null_of_slotName? hname⟩ isPlain_primaryName

theorem readSave_file (hv : start.Vacant s.base) (m : s.Mirrors start shelf files)
    (hkept : Table.get? slot shelf = some kept) (hname : IsPlain shortLimit name) {p : Player}
    (hfile : s.fileOf slot kept name = some (.file (.document (s.savePayload slot p)))) :
    readSave files ((s.folder slot).child name) =
      (reloaded s.config p).map fun q => ⟨s.savePayload slot p, q⟩ := by
  have hfolder : s.picture shelf [slot] = some .folder := by simp [picture, hkept]
  have hentry : files.entry ((s.folder slot).child name) =
      .ok (some (.file (.document (s.savePayload slot p)))) := by
    rw [folder, m.depicts.entry_file hv (m.isPlain_of_get? hkept) hname hfolder]
    simp only [picture, hkept, Option.bind_some, hfile]
  have hvalue : files.readValue ((s.folder slot).child name) = .ok (s.savePayload slot p) := by
    rw [FileTree.readValue, FileTree.read_eq_ok hentry]
    rfl
  rw [readSave, hvalue]
  exact s.saveOf_savePayload slot p

/-! ## Looking and loading -/

theorem has_eq (hv : start.Vacant s.base) (m : s.Mirrors start shelf files) (name : String) :
    s.has files name = (shelfSlot s.primary name).map fun slot => shelf.contains slot := by
  rw [has, m.slotIn_eq_shelfSlot hv]
  cases hslot : shelfSlot s.primary name with
  | error f => rfl
  | ok slot =>
      have hplain := isPlain_of_shelfSlot hslot
      have hthere : [s.primary slot, s.backup slot, s.legacy slot].any files.isThere =
          Table.contains slot shelf := by
        simp only [List.any_cons, List.any_nil, primary, backup, legacy]
        rw [m.isThere_file hv hplain isPlain_primaryName,
          m.isThere_file hv hplain isPlain_backupName, m.isThere_file hv hplain isPlain_legacyName,
          Table.contains]
        cases Table.get? slot shelf <;> simp
      simp only [bind, Except.bind, Except.map, hthere]
      rfl

/-- The file that is loaded holds the save that the shelf would pick. -/
theorem target?_eq_some (hv : start.Vacant s.base) (m : s.Mirrors start shelf files)
    (hkept : Table.get? slot shelf = some kept) (preferBackup : Bool) :
    ∃ name, IsPlain shortLimit name ∧
      s.target? files slot preferBackup = some ((s.folder slot).child name) ∧
      s.fileOf slot kept name =
        some (.file (.document (s.savePayload slot (kept.pick preferBackup)))) := by
  have hplain := m.isPlain_of_get? hkept
  have hprimary : files.isThere (s.primary slot) = true := by
    rw [primary, m.isThere_file hv hplain isPlain_primaryName, hkept]
    simp
  have hbackup : files.isThere (s.backup slot) = kept.previous.isSome := by
    rw [backup, m.isThere_file hv hplain isPlain_backupName, hkept]
    simp
  cases preferBackup with
  | false =>
      refine ⟨primaryName, isPlain_primaryName, ?_, s.fileOf_primaryName slot kept⟩
      change s.target? files slot false = some (s.primary slot)
      simp [target?, hprimary]
  | true =>
      cases hprevious : kept.previous with
      | none =>
          refine ⟨primaryName, isPlain_primaryName, ?_, ?_⟩
          · rw [hprevious] at hbackup
            change s.target? files slot true = some (s.primary slot)
            simp [target?, hprimary, hbackup]
          · simp [Kept.pick, hprevious]
      | some p =>
          refine ⟨backupName, isPlain_backupName, ?_, ?_⟩
          · rw [hprevious] at hbackup
            change s.target? files slot true = some (s.backup slot)
            simp [target?, hbackup]
          · simp [Kept.pick, hprevious]

theorem target?_eq_none (hv : start.Vacant s.base) (m : s.Mirrors start shelf files)
    (hslot : IsPlain nameLimit slot) (hkept : Table.get? slot shelf = none) (preferBackup : Bool) :
    s.target? files slot preferBackup = none := by
  have hmissing : ∀ {name}, IsPlain shortLimit name →
      files.isThere ((s.folder slot).child name) = false := by
    intro name hname
    rw [m.isThere_file hv hslot hname, hkept]
    rfl
  have hprimary := hmissing isPlain_primaryName
  have hbackup := hmissing isPlain_backupName
  have hlegacy := hmissing isPlain_legacyName
  cases preferBackup <;> simp [target?, primary, backup, legacy, hprimary, hbackup, hlegacy]

/-- Loading changes no file and answers with the sheet that the shelf would pick. -/
theorem load_perform (hv : start.Vacant s.base) (m : s.Mirrors start shelf files) (name : String)
    (preferBackup : Bool) :
    ((s.load files name preferBackup).perform files).files = files ∧
      (((s.load files name preferBackup).perform files).answer.map fun p =>
        SlotAnswer.loaded (p.map Player.toJson)) =
        (s.shelfAct shelf (.load name preferBackup)).2 := by
  rw [load, m.slotIn_eq_shelfSlot hv, shelfAct]
  cases hslot : shelfSlot s.primary name with
  | error f => exact ⟨rfl, rfl⟩
  | ok slot =>
      simp only [withSlot, bind, Except.bind, shelfLoad]
      cases hkept : Table.get? slot shelf with
      | none =>
          rw [m.target?_eq_none hv (isPlain_of_shelfSlot hslot) hkept]
          exact ⟨rfl, rfl⟩
      | some kept =>
          obtain ⟨file, hplain, htarget, hfile⟩ := m.target?_eq_some hv hkept preferBackup
          simp only [htarget, loadFrom, m.readSave_file hv hkept hplain hfile]
          cases hreloaded : reloaded s.config (kept.pick preferBackup) with
          | ok p => exact ⟨rfl, rfl⟩
          | error f =>
              simp only [Except.map, isBadSave_of_reloaded hreloaded, Bool.not_false, if_true]
              exact ⟨rfl, rfl⟩

/-! ## Saving -/

theorem isPlain_put (m : s.Mirrors start shelf files) (hslot : IsPlain nameLimit slot)
    (p : Player) :
    ∀ other ∈ Table.keys (shelf.put slot p), IsPlain nameLimit other := by
  intro other hother
  by_cases hkept : Table.get? slot shelf = none
  · rw [Shelf.put, Table.keys_set_of_get?_eq_none hkept, List.mem_append,
      List.mem_singleton] at hother
    obtain hold | rfl := hother
    · exact m.isPlain other hold
    · exact hslot
  · rw [Shelf.put, Table.keys_set_of_get?_ne_none hkept] at hother
    exact m.isPlain other hother

/-- A first save makes the folder of the slot. -/
theorem exists_performAll_of_get?_eq_none (hv : start.Vacant s.base)
    (m : s.Mirrors start shelf files) (hslot : IsPlain nameLimit slot)
    (hkept : Table.get? slot shelf = none) (p : Player) :
    ∃ done, files.performAll (.makeFolders (s.folder slot) ::
        s.writeActions slot (s.savePayload slot p) (s.backupActions files slot)) = (done, none) ∧
      s.Mirrors start (shelf.put slot p) done := by
  have hlook : s.picture shelf [slot] = none := by simp [picture, hkept]
  have hbelow : ∀ name, s.picture shelf [slot, name] = none := by simp [picture, hkept]
  have hbackup : s.backupActions files slot = [] := by
    simp [backupActions, primary, m.isThere_file hv hslot isPlain_primaryName, hkept]
  have hne : primaryName ≠ temporaryName := by decide
  obtain ⟨made, hmake, dmade⟩ := m.depicts.makeFolders_slot hv hslot hlook
  obtain ⟨written, hwrite, dwritten⟩ := dmade.write_file hv hslot isPlain_temporaryName
    (by simp) (by simp [hbelow]) (.document (s.savePayload slot p))
  obtain ⟨done, hrename, ddone⟩ := dwritten.rename_file hv (.document (s.savePayload slot p)) hslot
    isPlain_temporaryName isPlain_primaryName (by simp) (by simp) (by simp [hbelow, hne])
  refine ⟨done, ?_, ?_, m.isPlain_put hslot p⟩
  · simp only [hbackup, writeActions, folder, temporary, primary, List.cons_append,
      List.nil_append, FileTree.performAll, FileTree.perform, hmake, hwrite, hrename]
  · rw [Shelf.put, Table.keys_set_of_get?_eq_none hkept]
    refine ddone.congr (picture_put p ?_ ?_ ?_ ?_)
    · simp
    · intro name hprimary htemporary
      simp [htemporary, hbelow, fileOf, hprimary, hkept]
    · simp [picture_deep]
    · intro other rest hother
      simp [hother]

/-- A later save keeps the one it replaces as the backup. -/
theorem exists_performAll_of_get?_eq_some (hv : start.Vacant s.base)
    (m : s.Mirrors start shelf files) (hslot : IsPlain nameLimit slot)
    (hkept : Table.get? slot shelf = some kept) (p : Player) :
    ∃ done, files.performAll (.makeFolders (s.folder slot) ::
        s.writeActions slot (s.savePayload slot p) (s.backupActions files slot)) = (done, none) ∧
      s.Mirrors start (shelf.put slot p) done := by
  have hlook : s.picture shelf [slot] = some .folder := by simp [picture, hkept]
  have hbelow : ∀ name, s.picture shelf [slot, name] = s.fileOf slot kept name := by
    simp [picture, hkept]
  have hfile := s.fileOf_ne_folder slot kept
  have hbackup : s.backupActions files slot = [.copy (s.primary slot) (s.backup slot)] := by
    simp [backupActions, primary, m.isThere_file hv hslot isPlain_primaryName, hkept]
  have hprimary : primaryName ≠ temporaryName := by decide
  have hbackupName : backupName ≠ temporaryName := by decide
  have hother : primaryName ≠ backupName := by decide
  have hmake := m.depicts.makeFolders_slot_there hv hslot hlook
  obtain ⟨written, hwrite, dwritten⟩ := m.depicts.write_file hv hslot isPlain_temporaryName
    hlook (by simp [hbelow]) (.document (s.savePayload slot p))
  obtain ⟨copied, hcopy, dcopied⟩ := dwritten.copy_file hv
    (.document (s.savePayload slot kept.last)) hslot isPlain_primaryName isPlain_backupName
    (by simpa using hlook) (by simp [hbelow, hprimary])
    (by simp [hbackupName, hbelow])
  obtain ⟨done, hrename, ddone⟩ := dcopied.rename_file hv (.document (s.savePayload slot p)) hslot
    isPlain_temporaryName isPlain_primaryName (by simpa using hlook)
    (by simp [Ne.symm hbackupName]) (by simp [hbelow, hprimary, hother])
  refine ⟨done, ?_, ?_, m.isPlain_put hslot p⟩
  · simp only [hbackup, writeActions, folder, temporary, primary, backup, List.cons_append,
      List.nil_append, FileTree.performAll, FileTree.perform, hmake, hwrite, hcopy, hrename]
  · rw [Shelf.put, Table.keys_set_of_get?_ne_none (by simp [hkept])]
    refine ddone.congr (picture_put p ?_ ?_ ?_ ?_)
    · simp [hlook]
    · intro name hprimary htemporary
      by_cases hname : name = backupName
      · simp [hname, hkept]
      · simp [hname, htemporary, hbelow, fileOf, hprimary]
    · simp [picture_deep]
    · intro other rest hother
      simp [hother]

theorem exists_performAll (hv : start.Vacant s.base) (m : s.Mirrors start shelf files)
    (hslot : IsPlain nameLimit slot) (p : Player) :
    ∃ done, files.performAll (.makeFolders (s.folder slot) ::
        s.writeActions slot (s.savePayload slot p) (s.backupActions files slot)) = (done, none) ∧
      s.Mirrors start (shelf.put slot p) done := by
  cases hkept : Table.get? slot shelf with
  | none => exact m.exists_performAll_of_get?_eq_none hv hslot hkept p
  | some kept => exact m.exists_performAll_of_get?_eq_some hv hslot hkept p

theorem save_perform (hv : start.Vacant s.base) (m : s.Mirrors start shelf files) (name : String)
    (p : Player) (label : String) (quiet : Bool) :
    s.Mirrors start (s.shelfSave shelf name p).1
        ((s.save files name p label quiet).perform files).files ∧
      (((s.save files name p label quiet).perform files).answer.map fun path =>
        SlotAnswer.saved (some path)) = (s.shelfSave shelf name p).2 := by
  cases hname : slotOf name with
  | error f =>
      have hshelf : shelfSlot s.folder name = .error f := by simp only [shelfSlot, hname]
      simp only [save, hname, withSlot, shelfSave, hshelf]
      exact ⟨m, rfl⟩
  | ok slot =>
      have hslot := slotOf_eq_ok_iff.mp hname
      have hup := ne_up_of_slotName? hslot
      have hnull := no_null_of_slotName? hslot
      by_cases hsize : nameLimit < slot.utf8ByteSize
      · have hshelf : shelfSlot s.folder name = .error (.file ⟨.nameTooLong, s.folder slot⟩) := by
          simp only [shelfSlot, hname, hsize, if_true]
        have hmake := m.depicts.makeFolders_slot_of_long hv hup hnull hsize
        simp only [save, hname, withSlot, shelfSave, hshelf, SavePlan.perform,
          FileTree.performAll, FileTree.perform, folder, hmake]
        exact ⟨m, rfl⟩
      · have hshelf : shelfSlot s.folder name = .ok slot := by
          simp only [shelfSlot, hname, hsize, if_false]
        obtain ⟨done, hdone, mdone⟩ :=
          m.exists_performAll hv ⟨hup, Nat.not_lt.mp hsize, hnull⟩ p
        simp only [save, hname, withSlot, shelfSave, hshelf, SavePlan.perform, hdone]
        exact ⟨mdone, rfl⟩

/-! ## Deleting and listing -/

theorem delete_perform (hv : start.Vacant s.base) (m : s.Mirrors start shelf files)
    (name : String) :
    s.Mirrors start (s.shelfAct shelf (.delete name)).1
        ((s.delete files name).perform files).files ∧
      ((s.delete files name).perform files).answer.map SlotAnswer.told =
        (s.shelfAct shelf (.delete name)).2 := by
  rw [delete, m.slotIn_eq_shelfSlot hv]
  cases hslot : shelfSlot s.primary name with
  | error f =>
      simp only [withSlot, shelfAct, hslot]
      exact ⟨m, rfl⟩
  | ok slot =>
      have hplain := isPlain_of_shelfSlot hslot
      simp only [withSlot, shelfAct, hslot, m.isThere_folder hv hplain, Table.contains]
      cases hkept : Table.get? slot shelf with
      | none =>
          rw [Table.erase_eq_self hkept]
          exact ⟨m, rfl⟩
      | some kept =>
          have hlook : s.picture shelf [slot] = some .folder := by simp [picture, hkept]
          obtain ⟨done, hremove, ddone⟩ := m.depicts.removeTree_slot hv hplain hlook
          simp only [Option.isSome_some, if_true, SavePlan.perform, FileTree.performAll,
            FileTree.perform, folder, hremove]
          refine ⟨⟨?_, ?_⟩, rfl⟩
          · rw [Table.keys_erase]
            exact ddone.congr (s.picture_erase shelf slot)
          · intro other hother
            rw [Table.keys_erase] at hother
            exact m.isPlain other (List.mem_of_mem_filter hother)

theorem readMetadata_eq (hv : start.Vacant s.base) (m : s.Mirrors start shelf files)
    (hkept : Table.get? slot shelf = some kept) :
    readMetadata files slot (s.primary slot) =
      (reloaded s.config kept.last).map (s.described slot) := by
  rw [readMetadata, primary,
    m.readSave_file hv hkept isPlain_primaryName (s.fileOf_primaryName slot kept)]
  cases hreloaded : reloaded s.config kept.last with
  | ok p =>
      unfold reloaded at hreloaded
      split at hreloaded
      · obtain rfl := Except.ok.inj hreloaded
        rfl
      · cases hreloaded
  | error f => simp only [Except.map, isBadSave_of_reloaded hreloaded, Bool.false_eq_true, if_false]

theorem listed?_eq (hv : start.Vacant s.base) (m : s.Mirrors start shelf files)
    (hkept : Table.get? slot shelf = some kept) :
    s.listed? files slot = some (s.primary slot) := by
  have hthere : files.isThere (s.primary slot) = true := by
    rw [primary, m.isThere_file hv (m.isPlain_of_get? hkept) isPlain_primaryName, hkept]
    simp
  simp [listed?, hthere]

theorem mapM_readMetadata (hv : start.Vacant s.base) (m : s.Mirrors start shelf files)
    {slots : List String} (h : ∀ slot ∈ slots, slot ∈ shelf.keys) :
    ((slots.filterMap fun slot => (s.listed? files slot).map fun path => (slot, path)).mapM
        fun (slot, path) => readMetadata files slot path) =
      ((slots.filterMap fun slot =>
        (Table.get? slot shelf).map fun kept => (slot, kept.last)).mapM
          fun (slot, p) => (reloaded s.config p).map (s.described slot)) := by
  induction slots with
  | nil => rfl
  | cons slot slots ih =>
      obtain ⟨hslot, hslots⟩ := List.forall_mem_cons.mp h
      obtain ⟨kept, hkept⟩ := Table.exists_get?_of_mem_keys hslot
      simp only [List.filterMap_cons, m.listed?_eq hv hkept, hkept, Option.map_some,
        List.mapM_cons, m.readMetadata_eq hv hkept, ih hslots]

theorem list_eq (hv : start.Vacant s.base) (m : s.Mirrors start shelf files)
    (includeAutosave : Bool) :
    s.list files includeAutosave = s.shelfList shelf includeAutosave := by
  have hbase : files.isFolder s.base = true := m.depicts.isFolder_base hv
  have hthere : files.isThere s.base = true := by
    obtain ⟨hclear, hlookup⟩ := FileTree.isFolder_iff.mp hbase
    rw [FileTree.isThere, FileTree.entry?, FileTree.entry_of_clear hclear, hlookup]
    rfl
  have hmem : ∀ slot ∈ Text.sortTexts shelf.keys, slot ∈ shelf.keys := by
    intro slot hslot
    exact List.mem_mergeSort.mp hslot
  have hslots : ((files.children s.base).filter fun slot =>
      files.isFolder (s.folder slot) && (includeAutosave || slot != autosaveSlot)) =
      (Text.sortTexts shelf.keys).filter fun slot => includeAutosave || slot != autosaveSlot := by
    rw [FileTree.children_eq_sortTexts hbase, m.depicts.names_eq]
    refine List.filter_congr ?_
    intro slot hslot
    obtain ⟨kept, hkept⟩ := Table.exists_get?_of_mem_keys (hmem slot hslot)
    rw [m.isFolder_folder hv (m.isPlain_of_get? hkept), hkept]
    rfl
  simp only [list, hbase, hthere, hslots]
  rw [shelfList]
  refine m.mapM_readMetadata hv ?_
  intro slot hslot
  exact hmem slot (List.mem_of_mem_filter hslot)

/-! ## Every action -/

theorem act_refines (hv : start.Vacant s.base) (m : s.Mirrors start shelf files) (a : SlotAction) :
    s.Mirrors start (s.shelfAct shelf a).1 (s.act files a).files ∧
      (s.act files a).answer = (s.shelfAct shelf a).2 := by
  cases a with
  | save name p label quiet =>
      rw [act, SavePlan.perform_map, shelfAct]
      exact m.save_perform hv name p label quiet
  | autosave p =>
      rw [act, SavePlan.perform_map, shelfAct, autosave]
      split
      · exact ⟨m, rfl⟩
      · obtain ⟨hmirrors, hanswer⟩ := m.save_perform hv autosaveSlot p "Autosave" true
        rw [SavePlan.perform_map]
        refine ⟨hmirrors, ?_⟩
        rw [← hanswer]
        cases ((s.save files autosaveSlot p "Autosave" true).perform files).answer <;> rfl
  | load name preferBackup =>
      obtain ⟨hfiles, hanswer⟩ := m.load_perform hv name preferBackup
      rw [act, SavePlan.perform_map]
      refine ⟨?_, hanswer⟩
      change s.Mirrors start shelf ((s.load files name preferBackup).perform files).files
      rw [hfiles]
      exact m
  | has name =>
      refine ⟨m, ?_⟩
      rw [act, m.has_eq hv, shelfAct]
      cases shelfSlot s.primary name <;> rfl
  | delete name =>
      rw [act, SavePlan.perform_map]
      exact m.delete_perform hv name
  | list includeAutosave =>
      refine ⟨m, ?_⟩
      rw [act, m.list_eq hv, shelfAct]

/-- Along any run of actions the files keep showing the shelf. -/
theorem after_refines (hv : start.Vacant s.base) (m : s.Mirrors start shelf files)
    (as : List SlotAction) : s.Mirrors start (s.shelfAfter shelf as) (s.after files as) := by
  induction as generalizing shelf files with
  | nil => exact m
  | cons a as ih => exact ih (m.act_refines hv a).1

theorem answers_refine (hv : start.Vacant s.base) (m : s.Mirrors start shelf files)
    (as : List SlotAction) : s.answers files as = s.shelfAnswers shelf as := by
  induction as generalizing shelf files with
  | nil => rfl
  | cons a as ih =>
      obtain ⟨hmirrors, hanswer⟩ := m.act_refines hv a
      rw [answers, shelfAnswers, hanswer, ih hmirrors]

end Mirrors

/-- Before anything is saved, the files show an empty shelf. -/
theorem mirrors_nil (hv : start.Vacant s.base) : s.Mirrors start [] start where
  depicts := hv.depicts.congr fun slot rest => by
    cases rest with
    | nil => rfl
    | cons name rest => cases rest <;> rfl
  isPlain := nofun

/-- A name that no slot has is refused, and no file is touched. -/
theorem act_eq_badSlotName {a : SlotAction} (hname : a.name? = some name)
    (hslot : slotName? name = none) (s : SaveStore) (files : FileTree) :
    s.act files a = ⟨files, [], .error .badSlotName⟩ := by
  have hbad : slotOf name = .error .badSlotName := by rw [slotOf, hslot]
  have hbadIn : s.slotIn files name = .error .badSlotName := by rw [slotIn, hbad]; rfl
  cases a with
  | save name p label quiet =>
      obtain rfl := Option.some.inj hname
      rw [act, save, hbad]
      rfl
  | autosave p =>
      obtain rfl := Option.some.inj hname
      rw [slotName?_autosaveSlot] at hslot
      contradiction
  | load name preferBackup =>
      obtain rfl := Option.some.inj hname
      rw [act, load, hbadIn]
      rfl
  | has name =>
      obtain rfl := Option.some.inj hname
      rw [act, has, hbadIn]
      rfl
  | delete name =>
      obtain rfl := Option.some.inj hname
      rw [act, delete, hbadIn]
      rfl
  | list includeAutosave => contradiction

/-- On files that hold no slots yet, every run of actions is answered as by a shelf; what an action
about a slot answers depends on the earlier actions about that slot alone; and a name that no slot
has is refused without touching a file.  A player whose stats are numbers comes back from a save. -/
theorem slots_refine_shelf (s : SaveStore) (start : FileTree) (hv : start.Vacant s.base)
    (as : List SlotAction) :
    s.answers start as = s.shelfAnswers [] as ∧
      (∀ a slot, a.slot? = some slot →
        (s.act (s.after start as) a).answer =
          (s.act (s.after start (as.filter fun b => b.slot? = some slot)) a).answer) ∧
      (∀ a name, a.name? = some name → slotName? name = none →
        s.act (s.after start as) a = ⟨s.after start as, [], .error .badSlotName⟩) ∧
      ∀ p : Player, (∀ m ∈ p.otherStats, ∃ n, m.2 = .int n) →
        reloaded s.config p = .ok { savedPlayer s.config p with leveledUp := false } := by
  have hmirrors : ∀ bs, s.Mirrors start (s.shelfAfter [] bs) (s.after start bs) :=
    (mirrors_nil hv).after_refines hv
  refine ⟨(mirrors_nil hv).answers_refine hv as, ?_, ?_, fun p => reloaded_of_numbers⟩
  · intro a slot hslot
    have hsame := get?_shelfAfter_filter s slot as (rfl : Table.get? slot ([] : Shelf) = _)
    rw [((hmirrors _).act_refines hv a).2, ((hmirrors _).act_refines hv a).2]
    exact (shelfAct_congr hslot hsame).2
  · intro a name hname hslot
    exact act_eq_badSlotName hname hslot s (s.after start as)

/-- A store in a folder right below the working directory. -/
def savesStore : SaveStore where
  base := .ofText "saves"
  clock := "2000-01-01T00:00:00+00:00"

/-- After two saves under names of one slot the slot holds the second, and the first before it. -/
theorem slots_refine_shelf_in_saves :
    let start : FileTree := ⟨[(["saves"], .folder)]⟩
    let as : List SlotAction :=
      [.save "Hero" { xp := 1 } "" true, .save " hero! " { xp := 2 } "" true, .load "HERO" true]
    start.Vacant savesStore.base ∧ savesStore.answers start as = savesStore.shelfAnswers [] as ∧
      (reloaded savesStore.config { xp := 1 }).map (·.xp) = .ok 1 ∧
      (Table.get? "hero" (savesStore.shelfAfter [] as)).map
        (fun kept => (kept.last.xp, kept.previous.map (·.xp))) = some (2, some 1) := by
  intro start as
  have hv : start.Vacant savesStore.base := by
    constructor <;> decide +kernel
  obtain ⟨hanswers, -, -, hreloaded⟩ := slots_refine_shelf savesStore start hv as
  refine ⟨hv, hanswers, ?_, ?_⟩
  · rw [hreloaded { xp := 1 } nofun]
    rfl
  · decide +kernel

end SaveStore

end Questline
