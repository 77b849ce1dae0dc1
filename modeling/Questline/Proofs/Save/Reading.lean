import Questline.Proofs.Files.Documents
import Questline.Proofs.Save.Migrating

/-!
# Reading a save

Reading a file gives the save, or finds it no good, or stops.  It stops on bytes
that are no text, on numbers that are too long and values that are too deep to
be read, and where the migration stops: on values that are too deep to be copied,
and on a flat save with a block that nothing can go through.
-/

namespace Questline

namespace SaveStore

variable {v : Json}

theorem currentSave_stops_iff (spell : Spelling) :
    (∃ f, currentSave spell v = .error f ∧ f.isBadSave = false) ↔ Migration.Stops v := by
  rw [← Migration.migrateSpelt_stops_iff spell, currentSave]
  cases migrateSpelt spell v schema with
  | error f => cases f <;> simp [SaveFault.isBadSave, SaveFault.message?, MigrationFault.message?]
  | ok save =>
      simp only [checkSave, reduceCtorEq, exists_false, iff_false]
      split
      · simp [SaveFault.isBadSave, SaveFault.message?]
      · split
        · simp [SaveFault.isBadSave, SaveFault.message?]
        · split <;> simp [SaveFault.isBadSave, SaveFault.message?]

theorem saveOf_stops_iff :
    (∃ f, saveOf v = .error f ∧ f.isBadSave = false) ↔ Migration.Stops v := by
  rw [saveOf]
  cases hwritten : currentSave PairTable.written v with
  | error f =>
      rw [← currentSave_stops_iff PairTable.written, hwritten]
      simp [bind, Except.bind]
  | ok written =>
      rw [← currentSave_stops_iff PairTable.described]
      cases currentSave PairTable.described v <;> simp [bind, Except.bind, pure, Except.pure]

end SaveStore

namespace FileContent

variable {content : FileContent}

/-- The file holds no text, or a number or a value that cannot be read, or a save whose migration
stops. -/
inductive Stops (content : FileContent) : Prop where
  | undecodable (h : content.value = .error .undecodable)
  | hugeInteger (h : content.value = .error .hugeInteger)
  | tooDeep (h : content.value = .error .tooDeep)
  | migration {v : Json} (h : content.value = .ok v) (hv : Migration.Stops v)

theorem stops_iff_of_ok {v : Json} (h : content.value = .ok v) :
    content.Stops ↔ Migration.Stops v := by
  constructor
  · rintro (hbad | hbad | hbad | ⟨hok, hv⟩)
    · simp [h] at hbad
    · simp [h] at hbad
    · simp [h] at hbad
    · rw [h] at hok
      cases hok
      exact hv
  · exact .migration h

end FileContent

namespace SaveStore

variable {files : FileTree} {path : FilePath} {content : FileContent}

theorem readSave_stops_iff (hread : files.read path = .ok content) :
    (∃ f, readSave files path = .error f ∧ f.isBadSave = false) ↔ content.Stops := by
  have hvalue : files.readValue path = content.value := by rw [FileTree.readValue, hread]
  cases hcontent : content.value with
  | ok v =>
      have hsave : readSave files path = saveOf v := by rw [readSave, hvalue, hcontent]
      rw [hsave, saveOf_stops_iff, FileContent.stops_iff_of_ok hcontent]
  | error f =>
      rw [readSave, hvalue, hcontent]
      cases f with
      | file f => exact absurd hcontent (content.value_ne_file f)
      | undecodable => exact iff_of_true ⟨_, rfl, rfl⟩ (.undecodable hcontent)
      | hugeInteger => exact iff_of_true ⟨_, rfl, rfl⟩ (.hugeInteger hcontent)
      | tooDeep => exact iff_of_true ⟨_, rfl, rfl⟩ (.tooDeep hcontent)
      | malformed =>
          refine iff_of_false ?_ ?_
          · rintro ⟨f, hf, hbad⟩
            cases hf
            contradiction
          · rintro (h | h | h | ⟨h, -⟩) <;> simp [hcontent] at h

end SaveStore

end Questline
