import Mathlib.Logic.Function.Basic
import Questline.Proofs.Files.Folder

/-!
# Pictures of a folder

A picture shows what stands below a folder.  Where a picture shows the files,
every operation on a file in a folder right inside it answers as the picture
says, and a change to the files is a change to the picture.
-/

namespace Questline

/-- What stands below a folder, each under the names that lead there. -/
abbrev Picture := Location → Option FileEntry

namespace FilePath

/-- The longest name of a file in a folder that there is always room for, in bytes. -/
def shortLimit : Nat := 16

theorem location_child_child (p : FilePath) {slot name : String} (hslot : slot ≠ "..")
    (hname : name ≠ "..") : ((p.child slot).child name).location = p.location ++ [slot, name] := by
  rw [location_child _ hname, location_child _ hslot, List.append_assoc]
  rfl

end FilePath

namespace FileTree

/-- A folder with nothing in it, and a path that leaves room for folders with files inside. -/
structure Vacant (t : FileTree) (base : FilePath) : Prop where
  isFolder : t.isFolder base = true
  eq_of_prefix : ∀ p ∈ t.entries, base.location.isPrefixOf p.1 = true → p.1 = base.location
  room : base.text.utf8ByteSize + 1 + FilePath.nameLimit + 1 + FilePath.shortLimit ≤
    FilePath.textLimit

/-- Whatever was there at the start is there, and below the base there is what the picture shows,
in folders and files with the given names right inside. -/
structure Depicts (start : FileTree) (base : FilePath) (files : FileTree) (names : List String)
    (look : Picture) : Prop where
  within : start.Within files
  lookup_below : ∀ slot rest, files.lookup? (base.location ++ slot :: rest) = look (slot :: rest)
  names_eq : files.namesIn base.location = names

theorem exists_mem_of_lookup_eq_some {place : Location} {e : FileEntry}
    {es : List (Location × FileEntry)} (h : lookup place es = some e) : ∃ p ∈ es, p.1 = place := by
  induction es with
  | nil => contradiction
  | cons p es ih =>
      by_cases hp : p.1 = place
      · exact ⟨p, List.mem_cons_self, hp⟩
      · obtain ⟨q, hq, hplace⟩ := ih (by simpa [lookup, hp] using h)
        exact ⟨q, List.mem_cons_of_mem p hq, hplace⟩

namespace Vacant

variable {start : FileTree} {base : FilePath}

theorem lookup_below (h : start.Vacant base) (slot : String) (rest : List String) :
    start.lookup? (base.location ++ slot :: rest) = none := by
  rw [lookup?, if_neg (by simp), Option.eq_none_iff_forall_ne_some]
  intro e he
  obtain ⟨p, hp, hplace⟩ := exists_mem_of_lookup_eq_some he
  have hprefix : base.location.isPrefixOf p.1 = true := by
    rw [hplace, List.isPrefixOf_iff_prefix]
    exact List.prefix_append _ _
  have hsame := h.eq_of_prefix p hp hprefix
  rw [hplace] at hsame
  simp at hsame

theorem namesIn_eq_nil (h : start.Vacant base) : start.namesIn base.location = [] := by
  rw [namesIn, List.filterMap_eq_nil_iff]
  intro p hp
  rw [Option.eq_none_iff_forall_ne_some]
  intro name hname
  have hplace := childName?_eq_some_iff.mp hname
  have hsame := h.eq_of_prefix p hp (by
    rw [hplace, List.isPrefixOf_iff_prefix]
    exact List.prefix_append _ _)
  rw [hplace] at hsame
  simp at hsame

theorem room_slot (h : start.Vacant base) {slot : String}
    (hslot : FilePath.IsPlain FilePath.nameLimit slot) :
    (base.child slot).text.utf8ByteSize ≤ FilePath.textLimit := by
  have hsize := base.text_child_size_le slot
  have hroom := h.room
  have hlimit := hslot.size_le
  omega

theorem room_file (h : start.Vacant base) {slot name : String}
    (hslot : FilePath.IsPlain FilePath.nameLimit slot)
    (hname : FilePath.IsPlain FilePath.shortLimit name) :
    ((base.child slot).child name).text.utf8ByteSize ≤ FilePath.textLimit := by
  have hslotSize := base.text_child_size_le slot
  have hnameSize := (base.child slot).text_child_size_le name
  have hroom := h.room
  have hslotLimit := hslot.size_le
  have hnameLimit := hname.size_le
  omega

theorem depicts (h : start.Vacant base) : start.Depicts base start [] fun _ => none where
  within := fun _ _ he => he
  lookup_below := h.lookup_below
  names_eq := h.namesIn_eq_nil

end Vacant

namespace Depicts

variable {start files : FileTree} {base : FilePath} {names : List String} {look : Picture}
  {slot name : String}

theorem isFolder_base (hv : start.Vacant base) (d : start.Depicts base files names look) :
    files.isFolder base = true :=
  isFolder_mono d.within hv.isFolder

theorem congr (d : start.Depicts base files names look) {look' : Picture}
    (h : ∀ slot rest, look (slot :: rest) = look' (slot :: rest)) :
    start.Depicts base files names look' where
  within := d.within
  lookup_below := fun slot rest => (d.lookup_below slot rest).trans (h slot rest)
  names_eq := d.names_eq

/-! ## Changes to the picture -/

theorem within_put (hv : start.Vacant base) (d : start.Depicts base files names look)
    (slot : String) (rest : List String) (e : FileEntry) :
    start.Within (files.put (base.location ++ slot :: rest) e) := by
  intro place e' he
  have hne : place ≠ base.location ++ slot :: rest := by
    rintro rfl
    rw [hv.lookup_below slot rest] at he
    contradiction
  rw [lookup?_put_of_ne _ hne]
  exact d.within place e' he

theorem lookup_below_put (d : start.Depicts base files names look)
    (slot : String) (rest : List String) (e : FileEntry) (slot' : String) (rest' : List String) :
    (files.put (base.location ++ slot :: rest) e).lookup? (base.location ++ slot' :: rest') =
      Function.update look (slot :: rest) (some e) (slot' :: rest') := by
  by_cases h : slot' :: rest' = slot :: rest
  · rw [h, Function.update_self, lookup?_put_self _ (by simp)]
  · rw [Function.update_of_ne h, lookup?_put_of_ne _ (by simpa using h)]
    exact d.lookup_below slot' rest'

theorem put_folder (hv : start.Vacant base) (d : start.Depicts base files names look)
    (h : look [slot] = none) (e : FileEntry) :
    start.Depicts base (files.put (base.location ++ [slot]) e) (names ++ [slot])
      (Function.update look [slot] (some e)) where
  within := d.within_put hv slot [] e
  lookup_below := d.lookup_below_put slot [] e
  names_eq := by
    have hname : childName? base.location (base.location ++ [slot]) = some slot :=
      childName?_eq_some_iff.mpr rfl
    rw [namesIn_put_of_lookup?_eq_none (by rw [d.lookup_below, h]), d.names_eq, hname]
    rfl

theorem put_file (hv : start.Vacant base) (d : start.Depicts base files names look)
    (slot name : String) (e : FileEntry) :
    start.Depicts base (files.put (base.location ++ [slot, name]) e) names
      (Function.update look [slot, name] (some e)) where
  within := d.within_put hv slot [name] e
  lookup_below := d.lookup_below_put slot [name] e
  names_eq := by
    have hname : childName? base.location (base.location ++ [slot, name]) = none := by
      rw [Option.eq_none_iff_forall_ne_some]
      intro name' h
      have hplace := List.append_cancel_left (childName?_eq_some_iff.mp h)
      simp at hplace
    rw [namesIn_put_of_childName?_eq_none (by simp) hname, d.names_eq]

theorem erase (hv : start.Vacant base) (d : start.Depicts base files names look)
    (slot : String) (rest : List String) :
    start.Depicts base (files.erase (base.location ++ slot :: rest))
      (names.filter fun name => !(slot :: rest).isPrefixOf [name])
      (fun place => if (slot :: rest).isPrefixOf place then none else look place) where
  within := by
    intro place e he
    by_cases hplace : place = []
    · subst hplace
      simpa [lookup?] using he
    · have hprefix : (base.location ++ slot :: rest).isPrefixOf place = false := by
        rw [Bool.eq_false_iff]
        intro h
        obtain ⟨more, rfl⟩ := List.isPrefixOf_iff_prefix.mp h
        rw [List.append_assoc, List.cons_append, hv.lookup_below] at he
        contradiction
      rw [lookup?_erase _ hplace, hprefix]
      exact d.within place e he
  lookup_below := by
    intro slot' rest'
    rw [lookup?_erase _ (by simp), d.lookup_below]
    simp only [List.isPrefixOf_iff_prefix, List.prefix_append_right_inj]
  names_eq := by
    rw [namesIn_erase, d.names_eq]
    refine List.filter_congr ?_
    intro name _
    rw [Bool.eq_iff_iff]
    simp only [Bool.not_eq_true', Bool.eq_false_iff, ne_eq, List.isPrefixOf_iff_prefix,
      List.prefix_append_right_inj]

/-! ## What the picture answers -/

theorem obstacle?_slot (hv : start.Vacant base) (d : start.Depicts base files names look)
    (hslot : FilePath.IsPlain FilePath.nameLimit slot) :
    files.obstacle? (base.child slot) = none :=
  obstacle?_child (d.isFolder_base hv) hslot (hv.room_slot hslot)

theorem entry_slot (hv : start.Vacant base) (d : start.Depicts base files names look)
    (hslot : FilePath.IsPlain FilePath.nameLimit slot) :
    files.entry (base.child slot) = .ok (look [slot]) := by
  rw [entry_child (d.isFolder_base hv) hslot (hv.room_slot hslot), d.lookup_below]

theorem isFolder_slot (hv : start.Vacant base) (d : start.Depicts base files names look)
    (hslot : FilePath.IsPlain FilePath.nameLimit slot) :
    files.isFolder (base.child slot) = (look [slot]).any FileEntry.isFolder := by
  rw [isFolder, entry?, d.entry_slot hv hslot]

theorem obstacle?_file (hv : start.Vacant base) (d : start.Depicts base files names look)
    (hslot : FilePath.IsPlain FilePath.nameLimit slot)
    (hname : FilePath.IsPlain FilePath.shortLimit name) (hfolder : look [slot] = some .folder) :
    files.obstacle? ((base.child slot).child name) = none := by
  have hopen : files.isFolder (base.child slot) = true := by
    rw [d.isFolder_slot hv hslot, hfolder]
    rfl
  exact obstacle?_child hopen (hname.mono (by decide)) (hv.room_file hslot hname)

theorem entry_file (hv : start.Vacant base) (d : start.Depicts base files names look)
    (hslot : FilePath.IsPlain FilePath.nameLimit slot)
    (hname : FilePath.IsPlain FilePath.shortLimit name) (hfolder : look [slot] = some .folder) :
    files.entry ((base.child slot).child name) = .ok (look [slot, name]) := by
  rw [entry_of_clear (d.obstacle?_file hv hslot hname hfolder),
    FilePath.location_child_child _ hslot.ne_up hname.ne_up, d.lookup_below]

theorem entry_file_of_none (hv : start.Vacant base) (d : start.Depicts base files names look)
    (hslot : FilePath.IsPlain FilePath.nameLimit slot)
    (hname : FilePath.IsPlain FilePath.shortLimit name) (hnone : look [slot] = none) :
    files.entry ((base.child slot).child name) =
      .error ⟨.missing, (base.child slot).child name⟩ := by
  have hlookup := d.lookup_below slot []
  rw [hnone] at hlookup
  exact entry_child_child_of_none (d.isFolder_base hv) hslot hname.no_null
    (hv.room_file hslot hname) hlookup

theorem entry_slot_of_long (hv : start.Vacant base) (d : start.Depicts base files names look)
    (hup : slot ≠ "..") (hnull : '\x00' ∉ slot.toList)
    (hlong : FilePath.nameLimit < slot.utf8ByteSize) :
    files.entry (base.child slot) = .error ⟨.nameTooLong, base.child slot⟩ := by
  have hbase := d.isFolder_base hv
  have hroot : base.anchor ≠ .root := anchor_ne_root_of_isFolder hbase
  have hparts : files.obstacleFrom [] (base.child slot).parts = some .nameTooLong := by
    rw [FilePath.child, obstacleFrom_below hbase]
    simp [obstacleFrom, hup, hlong]
  have hwritable := FilePath.isWritable_child (isWritable_of_isFolder hbase) hnull
  rw [entry, obstacle?_eq_some hwritable hroot hparts (.inr rfl)]

/-! ## Changes to files -/

theorem makeFolders_slot (hv : start.Vacant base) (d : start.Depicts base files names look)
    (hslot : FilePath.IsPlain FilePath.nameLimit slot) (hnone : look [slot] = none) :
    ∃ files', files.makeFolders (base.child slot) = .ok files' ∧
      start.Depicts base files' (names ++ [slot])
        (Function.update look [slot] (some .folder)) := by
  refine ⟨_, ?_, d.put_folder hv hnone .folder⟩
  have hlocation : (base.child slot).location = base.location ++ [slot] :=
    FilePath.location_child _ hslot.ne_up
  have hlookup : files.lookup? (base.child slot).location = none := by
    rw [hlocation, d.lookup_below, hnone]
  rw [makeFolders_child, ensureFolder_eq_put (d.obstacle?_slot hv hslot) hlookup, hlocation]

theorem makeFolders_slot_there (hv : start.Vacant base)
    (d : start.Depicts base files names look) (hslot : FilePath.IsPlain FilePath.nameLimit slot)
    (hfolder : look [slot] = some .folder) : files.makeFolders (base.child slot) = .ok files := by
  have hthere : files.isFolder (base.child slot) = true := by
    rw [d.isFolder_slot hv hslot, hfolder]
    rfl
  rw [makeFolders_child, ensureFolder_eq_self hthere]

theorem makeFolders_slot_of_long (hv : start.Vacant base)
    (d : start.Depicts base files names look) (hup : slot ≠ "..") (hnull : '\x00' ∉ slot.toList)
    (hlong : FilePath.nameLimit < slot.utf8ByteSize) :
    files.makeFolders (base.child slot) = .error ⟨.nameTooLong, base.child slot⟩ := by
  have hentry := d.entry_slot_of_long hv hup hnull hlong
  have hmake : files.makeFolder (base.child slot) = .error ⟨.nameTooLong, base.child slot⟩ := by
    rw [makeFolder, hentry]
    rfl
  have hfolder : files.isFolder (base.child slot) = false := by
    rw [isFolder, entry?, hentry]
    rfl
  rw [makeFolders_child, ensureFolder, hmake]
  simp [hfolder]

theorem write_file (hv : start.Vacant base) (d : start.Depicts base files names look)
    (hslot : FilePath.IsPlain FilePath.nameLimit slot)
    (hname : FilePath.IsPlain FilePath.shortLimit name) (hfolder : look [slot] = some .folder)
    (hfile : look [slot, name] ≠ some .folder) (content : FileContent) :
    ∃ files', files.write ((base.child slot).child name) content = .ok files' ∧
      start.Depicts base files' names
        (Function.update look [slot, name] (some (.file content))) := by
  refine ⟨_, ?_, d.put_file hv slot name (.file content)⟩
  have hlocation := FilePath.location_child_child base hslot.ne_up hname.ne_up
  rw [write_eq_ok (d.obstacle?_file hv hslot hname hfolder) _ content, hlocation]
  rw [hlocation, d.lookup_below]
  exact hfile

theorem copy_file (hv : start.Vacant base) (d : start.Depicts base files names look)
    {source : String} (content : FileContent)
    (hslot : FilePath.IsPlain FilePath.nameLimit slot)
    (hsource : FilePath.IsPlain FilePath.shortLimit source)
    (hname : FilePath.IsPlain FilePath.shortLimit name) (hfolder : look [slot] = some .folder)
    (hcontent : look [slot, source] = some (.file content))
    (hfile : look [slot, name] ≠ some .folder) :
    ∃ files', files.copy ((base.child slot).child source) ((base.child slot).child name) =
        .ok files' ∧
      start.Depicts base files' names
        (Function.update look [slot, name] (some (.file content))) := by
  have hentry := d.entry_file hv hslot hsource hfolder
  rw [hcontent] at hentry
  have htarget : files.isFolder ((base.child slot).child name) = false := by
    rw [isFolder, entry?, d.entry_file hv hslot hname hfolder]
    cases hlook : look [slot, name] with
    | none => rfl
    | some e =>
        cases e with
        | folder => exact absurd hlook hfile
        | file old => rfl
  rw [copy_eq_write hentry htarget]
  exact d.write_file hv hslot hname hfolder hfile content

/-- A file that takes the place of another is gone from its own. -/
theorem rename_file (hv : start.Vacant base) (d : start.Depicts base files names look)
    {source : String} (content : FileContent)
    (hslot : FilePath.IsPlain FilePath.nameLimit slot)
    (hsource : FilePath.IsPlain FilePath.shortLimit source)
    (hname : FilePath.IsPlain FilePath.shortLimit name) (hfolder : look [slot] = some .folder)
    (hcontent : look [slot, source] = some (.file content))
    (hfile : look [slot, name] ≠ some .folder) :
    ∃ files', files.rename ((base.child slot).child source) ((base.child slot).child name) =
        .ok files' ∧
      start.Depicts base files' names
        (Function.update
          (fun place => if [slot, source].isPrefixOf place then none else look place)
          [slot, name] (some (.file content))) := by
  have hentry := d.entry_file hv hslot hsource hfolder
  rw [hcontent] at hentry
  have herased := d.erase hv slot [source]
  have hnames : (names.filter fun other => !List.isPrefixOf [slot, source] [other]) = names := by
    rw [List.filter_eq_self]
    intro other _
    simp [List.isPrefixOf]
  rw [hnames] at herased
  rw [rename_eq_write hentry, FilePath.location_child_child base hslot.ne_up hsource.ne_up]
  refine herased.write_file hv hslot hname ?_ ?_ content
  · simpa [List.isPrefixOf] using hfolder
  · split
    · exact nofun
    · exact hfile

theorem removeTree_slot (hv : start.Vacant base) (d : start.Depicts base files names look)
    (hslot : FilePath.IsPlain FilePath.nameLimit slot) (hfolder : look [slot] = some .folder) :
    ∃ files', files.removeTree (base.child slot) = .ok files' ∧
      start.Depicts base files' (names.filter fun name => name ≠ slot)
        (fun place => if [slot].isPrefixOf place then none else look place) := by
  have hthere : files.isFolder (base.child slot) = true := by
    rw [d.isFolder_slot hv hslot, hfolder]
    rfl
  refine ⟨_, removeTree_eq_erase hthere, ?_⟩
  have hnames : (names.filter fun name => name ≠ slot) =
      names.filter fun name => !List.isPrefixOf [slot] [name] := by
    refine List.filter_congr ?_
    intro name _
    by_cases h : name = slot
    · simp [List.isPrefixOf, h]
    · simp [List.isPrefixOf, h, Ne.symm h]
  rw [FilePath.location_child _ hslot.ne_up, hnames]
  exact d.erase hv slot []

end Depicts

end FileTree

end Questline
