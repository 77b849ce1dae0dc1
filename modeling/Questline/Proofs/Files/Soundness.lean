import Mathlib.Data.List.Nodup
import Questline.Proofs.Attempt
import Questline.Proofs.Files.Picture
import Questline.Proofs.Files.Replacement

/-!
# Sound trees

In a sound tree nothing stands twice, and everything stands under a name that a
file can have, inside a folder.  The tree with nothing in it is sound, and
every change to the files leaves a sound tree sound.
-/

namespace Questline

open FilePath (IsPlain nameLimit)

namespace FileTree

/-- A place for a file: a name that it can have, inside a folder. -/
def Hosts (t : FileTree) (place : Location) : Prop :=
  ∃ above name, place = above ++ [name] ∧ IsPlain nameLimit name ∧ t.lookup? above = some .folder

structure Sound (t : FileTree) : Prop where
  nodup : (t.entries.map (·.1)).Nodup
  hosts : ∀ m ∈ t.entries, t.Hosts m.1

variable {t u : FileTree} {p : FilePath} {place other : Location} {e : FileEntry}

theorem sound_nil : Sound ⟨[]⟩ := ⟨List.nodup_nil, nofun⟩

theorem mem_of_lookup {es : List (Location × FileEntry)} (h : lookup place es = some e) :
    (place, e) ∈ es := by
  induction es with
  | nil => contradiction
  | cons m es ih =>
      obtain ⟨other, old⟩ := m
      by_cases hm : other = place
      · simp only [lookup, hm, if_true, Option.some.injEq] at h
        rw [hm, h]
        exact List.mem_cons_self
      · exact List.mem_cons_of_mem _ (ih (by simpa [lookup, hm] using h))

theorem Sound.hosts_of_lookup? (ht : t.Sound) (hplace : place ≠ [])
    (h : t.lookup? place = some e) : t.Hosts place := by
  have hlookup : lookup place t.entries = some e := by simpa [lookup?, hplace] using h
  exact ht.hosts _ (mem_of_lookup hlookup)

theorem Hosts.dropLast (h : t.Hosts place) : t.lookup? place.dropLast = some .folder := by
  obtain ⟨above, name, rfl, -, hfolder⟩ := h
  rwa [List.dropLast_concat]

theorem Sound.lookup?_dropLast (ht : t.Sound) (h : t.lookup? place = some e) :
    t.lookup? place.dropLast = some .folder := by
  by_cases hplace : place = []
  · rw [hplace]
    rfl
  · exact (ht.hosts_of_lookup? hplace h).dropLast

/-- Where no folder is, nothing is inside. -/
theorem Sound.lookup?_concat_eq_none (ht : t.Sound) (h : t.lookup? place ≠ some .folder)
    (name : String) : t.lookup? (place ++ [name]) = none := by
  rw [Option.eq_none_iff_forall_ne_some]
  intro e he
  have hfolder := ht.lookup?_dropLast he
  rw [List.dropLast_concat] at hfolder
  exact h hfolder

/-! ## Names in a folder -/

theorem Sound.nodup_namesIn (ht : t.Sound) (folder : Location) : (t.namesIn folder).Nodup := by
  have hnames : t.namesIn folder = (t.entries.map (·.1)).filterMap (childName? folder) := by
    rw [namesIn, List.filterMap_map]
    rfl
  rw [hnames]
  refine ht.nodup.filterMap ?_
  intro place other name hplace hother
  rw [childName?_eq_some_iff.mp hplace, childName?_eq_some_iff.mp hother]

theorem mem_namesIn_of_lookup? {folder : Location} {name : String}
    (h : t.lookup? (folder ++ [name]) = some e) : name ∈ t.namesIn folder := by
  have hlookup : lookup (folder ++ [name]) t.entries = some e := by simpa [lookup?] using h
  exact List.mem_filterMap.mpr ⟨_, mem_of_lookup hlookup, childName?_eq_some_iff.mpr rfl⟩

theorem Sound.isPlain_of_mem_namesIn (ht : t.Sound) {folder : Location} {name : String}
    (h : name ∈ t.namesIn folder) : IsPlain nameLimit name := by
  obtain ⟨m, hm, hname⟩ := List.mem_filterMap.mp h
  obtain ⟨above, other, hplace, hplain, -⟩ := ht.hosts m hm
  rw [childName?_eq_some_iff.mp hname] at hplace
  obtain rfl := (List.concat_inj.mp (by simpa using hplace)).2
  exact hplain

/-! ## Putting and erasing -/

theorem map_fst_insert (place : Location) (e : FileEntry) (es : List (Location × FileEntry)) :
    (insert place e es).map (·.1) =
      if place ∈ es.map (·.1) then es.map (·.1) else es.map (·.1) ++ [place] := by
  induction es with
  | nil => rfl
  | cons m es ih =>
      by_cases hm : m.1 = place
      · simp [insert, hm]
      · rw [insert, if_neg hm, List.map_cons, ih]
        by_cases hes : place ∈ es.map (·.1) <;> simp_all [Ne.symm hm]

theorem eq_or_mem_of_mem_insert {m : Location × FileEntry} {es : List (Location × FileEntry)}
    (h : m ∈ insert place e es) : m.1 = place ∨ m ∈ es := by
  induction es with
  | nil => exact .inl (congrArg Prod.fst (List.mem_singleton.mp h))
  | cons n es ih =>
      by_cases hn : n.1 = place
      · rw [insert, if_pos hn] at h
        rcases List.mem_cons.mp h with rfl | h
        · exact .inl rfl
        · exact .inr (List.mem_cons_of_mem n h)
      · rw [insert, if_neg hn] at h
        rcases List.mem_cons.mp h with rfl | h
        · exact .inr List.mem_cons_self
        · exact (ih h).imp id (List.mem_cons_of_mem n)

theorem Hosts.put (h : t.Hosts place) (hother : t.lookup? other ≠ some .folder) (e : FileEntry) :
    (t.put other e).Hosts place := by
  obtain ⟨above, name, rfl, hname, hfolder⟩ := h
  have hne : above ≠ other := by
    rintro rfl
    exact hother hfolder
  exact ⟨above, name, rfl, hname, (lookup?_put_of_ne t hne e).trans hfolder⟩

theorem Sound.put (ht : t.Sound) (hplace : t.Hosts place) (h : t.lookup? place ≠ some .folder)
    (e : FileEntry) : (t.put place e).Sound where
  nodup := by
    rw [FileTree.put, map_fst_insert]
    split
    · exact ht.nodup
    · next hnew => exact List.concat_eq_append ▸ ht.nodup.concat hnew
  hosts := by
    intro m hm
    rcases eq_or_mem_of_mem_insert hm with hm | hm
    · rw [hm]
      exact hplace.put h e
    · exact (ht.hosts m hm).put h e

theorem Hosts.erase (h : t.Hosts place) (hnot : ¬ other <+: place) :
    (t.erase other).Hosts place := by
  obtain ⟨above, name, rfl, hname, hfolder⟩ := h
  refine ⟨above, name, rfl, hname, ?_⟩
  by_cases habove : above = []
  · rw [habove]
    rfl
  · have hkept : other.isPrefixOf above = false := by
      rw [Bool.eq_false_iff, ne_eq, List.isPrefixOf_iff_prefix]
      exact fun hunder => hnot (hunder.trans (List.prefix_append _ _))
    rw [lookup?_erase t habove, hkept]
    exact hfolder

theorem Sound.erase (ht : t.Sound) (place : Location) : (t.erase place).Sound where
  nodup := ht.nodup.sublist (List.filter_sublist.map _)
  hosts := by
    intro m hm
    obtain ⟨hm, hnot⟩ := List.mem_filter.mp hm
    refine (ht.hosts m hm).erase ?_
    rw [← List.isPrefixOf_iff_prefix, Bool.not_eq_true]
    simpa using hnot

/-! ## Changes to the files -/

/-- From a folder, a way that is clear leads to that folder or to a place for a file. -/
theorem Sound.hosts_of_clear (ht : t.Sound) {above : Location} {parts : List String}
    (habove : t.lookup? above = some .folder) (hclear : t.obstacleFrom above parts = none)
    (hnull : ∀ part ∈ parts, '\x00' ∉ part.toList) :
    parts.foldl FilePath.stepTo above = [] ∨ t.Hosts (parts.foldl FilePath.stepTo above) := by
  induction parts generalizing above with
  | nil => exact or_iff_not_imp_left.mpr fun hne => ht.hosts_of_lookup? hne habove
  | cons part rest ih =>
      obtain ⟨hpart, hrest⟩ := obstacleFrom_cons_eq_none_iff.mp hclear
      have hnull' : ∀ part ∈ rest, '\x00' ∉ part.toList := fun q hq =>
        hnull q (List.mem_cons_of_mem part hq)
      rw [List.foldl_cons]
      by_cases hup : part = ".."
      · rw [FilePath.stepTo, if_pos hup] at hrest ⊢
        exact ih (ht.lookup?_dropLast habove) hrest hnull'
      · obtain ⟨hsize, hopen⟩ := hpart hup
        rw [FilePath.stepTo, if_neg hup] at hrest ⊢
        by_cases hlast : rest = []
        · subst hlast
          exact .inr ⟨above, part, rfl, ⟨hup, hsize, hnull part List.mem_cons_self⟩, habove⟩
        · exact ih (hopen hlast) hrest hnull'

theorem Sound.hosts_location (ht : t.Sound) (hclear : t.obstacle? p = none)
    (h : t.lookup? p.location ≠ some .folder) : t.Hosts p.location := by
  obtain ⟨hwritable, -, -, hparts⟩ := obstacle?_eq_none_iff.mp hclear
  have hnull : ∀ part ∈ p.parts, '\x00' ∉ part.toList := by
    simpa [FilePath.isWritable] using hwritable
  refine (ht.hosts_of_clear rfl hparts hnull).resolve_left ?_
  intro hnil
  rw [FilePath.location, hnil] at h
  exact h rfl

theorem Sound.write (ht : t.Sound) {content : FileContent} (h : t.write p content = .ok u) :
    u.Sound := by
  obtain ⟨htakes, rfl⟩ := takes_of_write h
  exact ht.put (ht.hosts_location htakes.clear htakes.not_folder) htakes.not_folder _

theorem Sound.copy (ht : t.Sound) {source target : FilePath}
    (h : t.copy source target = .ok u) : u.Sound := by
  obtain ⟨content, hwrite⟩ := exists_write_of_copy h
  exact ht.write hwrite

theorem Sound.rename (ht : t.Sound) {source target : FilePath}
    (h : t.rename source target = .ok u) : u.Sound := by
  cases hread : t.read source with
  | error f => simp [FileTree.rename, hread, bind, Except.bind] at h
  | ok content =>
      rw [rename_eq_write (read_eq_ok_iff.mp hread)] at h
      exact (ht.erase source.location).write h

theorem eq_erase_of_removeTree (h : t.removeTree p = .ok u) : u = t.erase p.location := by
  cases hentry : t.entry p with
  | error f => simp [removeTree, hentry, bind, Except.bind] at h
  | ok e =>
      rw [removeTree, hentry] at h
      cases e with
      | none => cases h
      | some e =>
          cases e with
          | file content => cases h
          | folder => exact (Except.ok.inj h).symm

theorem Sound.ensureFolder (ht : t.Sound) (h : t.ensureFolder p = .ok u) : u.Sound := by
  obtain ⟨-, rfl⟩ | ⟨hclear, hlookup, rfl⟩ := ensureFolder_eq_ok h
  · exact ht
  · have hfolder : t.lookup? p.location ≠ some .folder := by simp [hlookup]
    exact ht.put (ht.hosts_location hclear hfolder) hfolder _

theorem Sound.ensureFolders (ht : t.Sound) {anchor : Anchor} {parts : List String}
    (h : t.ensureFolders anchor parts = .ok u) : u.Sound := by
  induction parts generalizing u with
  | nil => exact ht.ensureFolder h
  | cons part above ih =>
      simp only [FileTree.ensureFolders] at h
      split at h
      · next made hmade => exact Except.ok.inj h ▸ ht.ensureFolder hmade
      · split at h
        · obtain ⟨made, hmade, h⟩ := bind_eq_ok_iff.mp h
          exact (ih hmade).ensureFolder h
        · cases h

theorem Sound.perform (ht : t.Sound) {a : FileAction} (h : t.perform a = .ok u) : u.Sound := by
  cases a with
  | makeFolders p => exact ht.ensureFolders h
  | write p content => exact ht.write h
  | copy source target => exact ht.copy h
  | rename source target => exact ht.rename h
  | removeTree p => exact eq_erase_of_removeTree h ▸ ht.erase p.location

theorem Sound.performAll (ht : t.Sound) (as : List FileAction) : (t.performAll as).1.Sound := by
  induction as generalizing t with
  | nil => exact ht
  | cons a as ih =>
      simp only [FileTree.performAll]
      split
      · next u hu => exact ih (ht.perform hu)
      · exact ht

end FileTree

end Questline
