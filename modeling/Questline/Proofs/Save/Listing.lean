import Questline.Proofs.Files.Soundness
import Questline.Proofs.Save.Loading
import Questline.Proofs.Text.Sorting

/-!
# Listing the slots

A listing has one entry for each slot that holds a save, in the order of their
names, and an entry is bare where the save is no good.  That is so unless a
save spoils the listing: one that stops the reading, or whose metadata are
there and are no block.  Then there is no listing at all.
-/

namespace Questline

namespace SaveStore

variable {s : SaveStore} {files : FileTree} {slot : String} {path : FilePath}

/-- The slot is a folder right inside the base, with a save in it; the autosave slot counts on
demand only. -/
structure Lists (s : SaveStore) (files : FileTree) (includeAutosave : Bool) (slot : String) :
    Prop where
  ne_up : slot ≠ ".."
  folder : files.isFolder (s.folder slot) = true
  wanted : includeAutosave = true ∨ slot ≠ autosaveSlot
  there : files.isThere (s.primary slot) = true ∨ files.isThere (s.legacy slot) = true

/-- What is shown of a slot: nothing but its name, if there is no good save with metadata. -/
def entryOf (s : SaveStore) (files : FileTree) (slot : String) : SlotMetadata :=
  match (s.listed? files slot).map (readSave files) with
  | some (.ok save) =>
    match save.written.member? "metadata" with
    | some (.obj ms) =>
      ⟨slot, (Json.obj ms).memberOrNull "saved_at", (Json.obj ms).memberOrNull "player_name",
        (Json.obj ms).memberOrNull "current_step_id"⟩
    | _ => { slot }
  | _ => { slot }

/-- The save of a slot cannot be shown: it is no file, its content stops the reading, or it has
metadata that are no block. -/
inductive Spoils (s : SaveStore) (files : FileTree) (slot : String) : Prop
  | folder {path : FilePath} (listed : s.listed? files slot = some path)
      (folder : files.isFolder path = true)
  | stops {path : FilePath} {content : FileContent} (listed : s.listed? files slot = some path)
      (read : files.read path = .ok content) (stops : content.Stops)
  | noBlock {path : FilePath} {save : Save} {metadata : Json}
      (listed : s.listed? files slot = some path) (read : readSave files path = .ok save)
      (there : save.written.member? "metadata" = some metadata)
      (noBlock : metadata.isObject = false)

theorem isThere_of_listed? (h : s.listed? files slot = some path) : files.isThere path = true :=
  List.find?_some h

theorem listed?_isSome :
    (s.listed? files slot).isSome = true ↔
      files.isThere (s.primary slot) = true ∨ files.isThere (s.legacy slot) = true := by
  simp [listed?]

/-- The bad save that a failing read is taken for, unless it is the content that stops it. -/
theorem readMetadata_eq_ok (hlisted : s.listed? files slot = some path)
    (h : ¬ s.Spoils files slot) : readMetadata files slot path = .ok (s.entryOf files slot) := by
  have hfolder : files.isFolder path = false := by
    rw [Bool.eq_false_iff]
    exact fun hfolder => h (.folder hlisted hfolder)
  obtain ⟨content, hread⟩ := exists_read_of_isThere (isThere_of_listed? hlisted) hfolder
  rw [readMetadata, entryOf, hlisted, Option.map_some]
  cases hsave : readSave files path with
  | error f =>
      have hbad : f.isBadSave = true := by
        by_contra hnot
        exact h (.stops hlisted hread ((readSave_stops_iff hread).mp ⟨f, hsave, by simpa using hnot⟩))
      simp only [hbad, if_true]
  | ok save =>
      cases hmetadata : save.written.member? "metadata" with
      | none =>
          simp only [hmetadata, Option.getD_none]
          rfl
      | some metadata =>
          cases hblock : metadata.isObject with
          | false => exact absurd (.noBlock hlisted hsave hmetadata hblock) h
          | true =>
              cases metadata with
              | obj ms => simp [hmetadata, hblock]
              | _ => contradiction

theorem exists_readMetadata_eq_error (hlisted : s.listed? files slot = some path)
    (h : s.Spoils files slot) : ∃ f, readMetadata files slot path = .error f := by
  cases h with
  | folder listed folder =>
      obtain rfl := Option.some.inj (hlisted.symm.trans listed)
      obtain ⟨hclear, hlookup⟩ := FileTree.isFolder_iff.mp folder
      have hread : files.readValue path = .error (.file ⟨.isAFolder, path⟩) := by
        rw [FileTree.readValue, FileTree.read, FileTree.entry_of_clear hclear, hlookup]
        rfl
      exact ⟨.file ⟨.isAFolder, path⟩, by rw [readMetadata, readSave, hread]; rfl⟩
  | stops listed read stops =>
      obtain rfl := Option.some.inj (hlisted.symm.trans listed)
      obtain ⟨f, hf, hbad⟩ := (readSave_stops_iff read).mpr stops
      exact ⟨f, by simp [readMetadata, hf, hbad]⟩
  | noBlock listed read there noBlock =>
      obtain rfl := Option.some.inj (hlisted.symm.trans listed)
      exact ⟨.fault .noMembers, by simp [readMetadata, read, there, noBlock]⟩

/-! ## The names -/

/-- The slots of a listing, in order. -/
def slotsIn (s : SaveStore) (files : FileTree) (includeAutosave : Bool) : List String :=
  ((files.children s.base).filter fun slot =>
    files.isFolder (s.folder slot) && (includeAutosave || slot != autosaveSlot)).filter
      fun slot => (s.listed? files slot).isSome

theorem mem_slotsIn_iff (hsound : files.Sound) (hbase : files.isFolder s.base = true)
    (includeAutosave : Bool) :
    slot ∈ s.slotsIn files includeAutosave ↔ s.Lists files includeAutosave slot := by
  have hmem : slot ∈ files.children s.base ↔ slot ∈ files.namesIn s.base.location := by
    rw [FileTree.children_eq_sortTexts hbase]
    exact (Text.perm_sortTexts _).mem_iff
  simp only [slotsIn, List.mem_filter, hmem, Bool.and_eq_true, Bool.or_eq_true, bne_iff_ne,
    listed?_isSome]
  constructor
  · rintro ⟨⟨hname, hfolder, hwanted⟩, hthere⟩
    exact ⟨(hsound.isPlain_of_mem_namesIn hname).ne_up, hfolder, hwanted, hthere⟩
  · rintro ⟨hup, hfolder, hwanted, hthere⟩
    have hlookup := (FileTree.isFolder_iff.mp hfolder).2
    rw [folder, FilePath.location_child _ hup] at hlookup
    exact ⟨⟨FileTree.mem_namesIn_of_lookup? hlookup, hfolder, hwanted⟩, hthere⟩

theorem pairwise_lt_slotsIn (hsound : files.Sound) (hbase : files.isFolder s.base = true)
    (includeAutosave : Bool) : (s.slotsIn files includeAutosave).Pairwise (· < ·) := by
  rw [slotsIn, FileTree.children_eq_sortTexts hbase]
  exact ((Text.pairwise_lt_sortTexts (hsound.nodup_namesIn _)).filter _).filter _

/-! ## The entries -/

theorem map_fst_filterMap {α β : Type} (f : α → Option β) (xs : List α) :
    (xs.filterMap fun x => (f x).map fun y => (x, y)).map (·.1) =
      xs.filter fun x => (f x).isSome := by
  induction xs with
  | nil => rfl
  | cons x xs ih =>
      cases hx : f x with
      | none => simpa [hx] using ih
      | some y => simpa [hx] using ih

/-- The saves that a listing goes through. -/
def listedIn (s : SaveStore) (files : FileTree) (includeAutosave : Bool) :
    List (String × FilePath) :=
  ((files.children s.base).filter fun slot =>
    files.isFolder (s.folder slot) && (includeAutosave || slot != autosaveSlot)).filterMap
      fun slot => (s.listed? files slot).map fun path => (slot, path)

theorem list_eq_mapM (hbase : files.isFolder s.base = true) (includeAutosave : Bool) :
    s.list files includeAutosave =
      (s.listedIn files includeAutosave).mapM fun m => readMetadata files m.1 m.2 := by
  obtain ⟨hclear, hlookup⟩ := FileTree.isFolder_iff.mp hbase
  have hthere : files.isThere s.base = true := by
    rw [FileTree.isThere, FileTree.entry?, FileTree.entry_of_clear hclear, hlookup]
    rfl
  simp [list, listedIn, hthere, hbase]

theorem map_fst_listedIn (s : SaveStore) (files : FileTree) (includeAutosave : Bool) :
    (s.listedIn files includeAutosave).map (·.1) = s.slotsIn files includeAutosave :=
  map_fst_filterMap _ _

theorem mem_listedIn_iff (hsound : files.Sound) (hbase : files.isFolder s.base = true)
    {includeAutosave : Bool} :
    (slot, path) ∈ s.listedIn files includeAutosave ↔
      s.Lists files includeAutosave slot ∧ s.listed? files slot = some path := by
  rw [← mem_slotsIn_iff hsound hbase, slotsIn, List.mem_filter, listedIn, List.mem_filterMap]
  constructor
  · rintro ⟨other, hother, hmap⟩
    obtain ⟨p, hp, heq⟩ := Option.map_eq_some_iff.mp hmap
    obtain ⟨rfl, rfl⟩ := Prod.mk.inj heq
    exact ⟨⟨hother, by simp [hp]⟩, hp⟩
  · rintro ⟨⟨hslot, -⟩, hp⟩
    exact ⟨slot, hslot, by simp [hp]⟩

/-- On sound files, a listing names the slots that hold a save, each once and in order.  It is
there, with the entry of every slot, exactly if no slot that it names spoils it. -/
theorem list_answers_iff (s : SaveStore) {files : FileTree} (hsound : files.Sound)
    (hbase : files.isFolder s.base = true) (includeAutosave : Bool) :
    ∃ slots : List String,
      slots.Pairwise (· < ·) ∧ (∀ slot, slot ∈ slots ↔ s.Lists files includeAutosave slot) ∧
      ((∀ slot ∈ slots, ¬ s.Spoils files slot) →
        s.list files includeAutosave = .ok (slots.map (s.entryOf files))) ∧
      ((∃ slot ∈ slots, s.Spoils files slot) →
        ∃ f, s.list files includeAutosave = .error f) := by
  refine ⟨s.slotsIn files includeAutosave, pairwise_lt_slotsIn hsound hbase includeAutosave,
    fun slot => mem_slotsIn_iff hsound hbase includeAutosave, ?_⟩
  rw [list_eq_mapM hbase]
  constructor
  · intro hclear
    have heach : ∀ m ∈ s.listedIn files includeAutosave,
        ∃ entry, readMetadata files m.1 m.2 = .ok entry ∧ id entry = s.entryOf files m.1 := by
      intro m hm
      obtain ⟨hlists, hlisted⟩ := (mem_listedIn_iff hsound hbase).mp hm
      have hslot := (mem_slotsIn_iff hsound hbase includeAutosave).mpr hlists
      exact ⟨_, readMetadata_eq_ok hlisted (hclear m.1 hslot), rfl⟩
    obtain ⟨entries, hentries, hmap⟩ := exists_mapM_eq_ok_map_eq heach
    rw [← map_fst_listedIn, List.map_map, hentries]
    exact congrArg Except.ok ((List.map_id entries).symm.trans hmap)
  · rintro ⟨slot, hslot, hspoils⟩
    rw [← map_fst_listedIn] at hslot
    obtain ⟨m, hm, rfl⟩ := List.mem_map.mp hslot
    cases hall : (s.listedIn files includeAutosave).mapM fun m => readMetadata files m.1 m.2 with
    | error f => exact ⟨f, rfl⟩
    | ok entries =>
        obtain ⟨-, hlisted⟩ := (mem_listedIn_iff hsound hbase).mp hm
        obtain ⟨f, hf⟩ := exists_readMetadata_eq_error hlisted hspoils
        obtain ⟨entry, hentry⟩ := exists_mapM_eq_ok_iff.mp ⟨entries, hall⟩ m hm
        rw [hf] at hentry
        contradiction

/-- The files of some slots, made one after the other. -/
def slotFiles (files : List (String × String × FileContent)) : FileTree :=
  ((⟨[]⟩ : FileTree).performAll (files.flatMap fun (slot, file, content) =>
    [.makeFolders (savesStore.folder slot),
      .write ((savesStore.folder slot).child file) content])).1

theorem sound_slotFiles (files : List (String × String × FileContent)) : (slotFiles files).Sound :=
  FileTree.sound_nil.performAll _

def adaSave : FileContent :=
  .document (savesStore.savePayload "ada" { vars := [(Player.characterName, "Ada")] })

theorem children_slotFiles {files : List (String × String × FileContent)}
    (hbase : (slotFiles files).isFolder savesStore.base = true)
    (hsorted : ((slotFiles files).namesIn savesStore.base.location).Pairwise (· ≤ ·)) :
    (slotFiles files).children savesStore.base =
      (slotFiles files).namesIn savesStore.base.location := by
  rw [FileTree.children_eq_sortTexts hbase, Text.sortTexts_eq_self hsorted]

/-- One slot has a save, one has something else, one has neither. -/
theorem list_answers_iff_for_ada :
    let files := slotFiles [("ada", primaryName, adaSave), (autosaveSlot, primaryName, adaSave),
      ("bob", primaryName, .text "broken"), ("cleo", "notes.txt", .text "")]
    files.Sound ∧ files.isFolder savesStore.base = true ∧
      ∃ slots : List String, (∀ slot, slot ∈ slots ↔ savesStore.Lists files false slot) ∧
        (∀ slot ∈ slots, ¬ savesStore.Spoils files slot) ∧
        savesStore.list files false = .ok (slots.map (savesStore.entryOf files)) ∧
        savesStore.list files false =
          .ok [⟨"ada", .str savesStore.clock, .str "Ada", .null⟩, { slot := "bob" }] := by
  intro files
  have hsound : files.Sound := sound_slotFiles _
  have hbase : files.isFolder savesStore.base = true := by decide +kernel
  have hlist : savesStore.list files false =
      .ok [⟨"ada", .str savesStore.clock, .str "Ada", .null⟩, { slot := "bob" }] := by
    rw [list, children_slotFiles hbase (by decide +kernel)]
    decide +kernel
  obtain ⟨slots, -, hmem, hclear, hspoilt⟩ := list_answers_iff savesStore hsound hbase false
  have hgood : ∀ slot ∈ slots, ¬ savesStore.Spoils files slot := by
    intro slot hslot hspoils
    obtain ⟨f, hf⟩ := hspoilt ⟨slot, hslot, hspoils⟩
    rw [hlist] at hf
    contradiction
  exact ⟨hsound, hbase, slots, hmem, hgood, hclear hgood, hlist⟩

/-- One save whose metadata are a list, and the good save beside it is not listed either. -/
theorem list_can_fail :
    let spoilt := Json.obj [("version", .int 1), ("metadata", .arr []),
      ("state", .obj [("player", .obj [("tags", .arr [])])])]
    let files := slotFiles [("ada", primaryName, adaSave), ("bob", primaryName, .document spoilt)]
    files.Sound ∧ files.isFolder savesStore.base = true ∧
      savesStore.Lists files false "ada" ∧ savesStore.Lists files false "bob" ∧
      savesStore.list files false = .error (.fault .noMembers) := by
  intro spoilt files
  have hbase : files.isFolder savesStore.base = true := by decide +kernel
  refine ⟨sound_slotFiles _, hbase, ?_, ?_, ?_⟩
  · exact ⟨by decide, by decide +kernel, .inr (by decide), .inl (by decide +kernel)⟩
  · exact ⟨by decide, by decide +kernel, .inr (by decide), .inl (by decide +kernel)⟩
  · rw [list, children_slotFiles hbase (by decide +kernel)]
    decide +kernel

/-! ## A slot in a listing -/

theorem slot_of_readMetadata {entry : SlotMetadata}
    (h : readMetadata files slot path = .ok entry) : entry.slot = slot := by
  unfold readMetadata at h
  split at h
  · split at h
    · exact congrArg SlotMetadata.slot (Except.ok.inj h).symm
    · cases h
  · dsimp only at h
    split at h
    · exact congrArg SlotMetadata.slot (Except.ok.inj h).symm
    · cases h

/-- A slot whose save is read has the entry of that save, and no other. -/
theorem entry_of_list (hsound : files.Sound) (hbase : files.isFolder s.base = true)
    {includeAutosave : Bool} (hslot : s.Lists files includeAutosave slot)
    (hlisted : s.listed? files slot = some path) {entry : SlotMetadata}
    (hentry : readMetadata files slot path = .ok entry) {entries : List SlotMetadata}
    (h : s.list files includeAutosave = .ok entries) :
    entry ∈ entries ∧ ∀ e ∈ entries, e.slot = slot → e = entry := by
  rw [list_eq_mapM hbase] at h
  have hall := forall₂_of_mapM_eq_ok h
  constructor
  · have hmem := (mem_listedIn_iff hsound hbase).mpr ⟨hslot, hlisted⟩
    obtain ⟨e, he, hread⟩ := exists_mem_of_forall₂
      (R := fun e m => readMetadata files m.1 m.2 = .ok e) hall.flip hmem
    obtain rfl := Except.ok.inj (hentry.symm.trans hread)
    exact he
  · intro e he hname
    obtain ⟨⟨other, p⟩, hmem, hread⟩ := exists_mem_of_forall₂ hall he
    obtain rfl : other = slot := (slot_of_readMetadata hread).symm.trans hname
    obtain ⟨-, hp⟩ := (mem_listedIn_iff hsound hbase).mp hmem
    obtain rfl := Option.some.inj (hlisted.symm.trans hp)
    exact Except.ok.inj (hread.symm.trans hentry)

/-- There is a listing if no slot in it spoils it. -/
theorem exists_list_of_not_spoils (hsound : files.Sound) (hbase : files.isFolder s.base = true)
    {includeAutosave : Bool}
    (h : ∀ slot, s.Lists files includeAutosave slot → ¬ s.Spoils files slot) :
    ∃ entries, s.list files includeAutosave = .ok entries := by
  rw [list_eq_mapM hbase]
  refine exists_mapM_eq_ok_iff.mpr fun m hm => ?_
  obtain ⟨hlists, hlisted⟩ := (mem_listedIn_iff hsound hbase).mp hm
  exact ⟨_, readMetadata_eq_ok hlisted (h m.1 hlists)⟩

end SaveStore

end Questline
