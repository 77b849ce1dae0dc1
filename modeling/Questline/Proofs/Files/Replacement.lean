import Questline.Proofs.Files.Folder

/-!
# Replacing a file

A file is replaced by writing the new content aside and putting it in place.
Where a file can be reached and no folder stands in its place or aside, that
always works, and nothing else is touched.
-/

namespace Questline

namespace FileTree

variable {t u : FileTree} {p aside : FilePath} {place : Location} {content : FileContent}

/-! ## Ways that stay clear -/

/-- Beside a name that can be reached every short enough name can. -/
theorem obstacleFrom_sibling {above : Location} {parts : List String} {name other : String}
    (hother : FilePath.IsPlain FilePath.nameLimit other)
    (hclear : t.obstacleFrom above (parts ++ [name]) = none) :
    t.obstacleFrom above (parts ++ [other]) = none := by
  induction parts generalizing above with
  | nil => simp [obstacleFrom, hother.ne_up, hother.size_le]
  | cons part parts ih =>
      obtain ⟨hpart, hrest⟩ := obstacleFrom_cons_eq_none_iff.mp hclear
      refine obstacleFrom_cons_eq_none_iff.mpr ⟨fun hne => ?_, ih hrest⟩
      obtain ⟨hsize, hfolder⟩ := hpart hne
      exact ⟨hsize, fun _ => hfolder (by simp)⟩

theorem obstacle?_sibling {name other : String}
    (hother : FilePath.IsPlain FilePath.nameLimit other)
    (hroom : (p.child other).text.utf8ByteSize ≤ FilePath.textLimit)
    (hclear : t.obstacle? (p.child name) = none) : t.obstacle? (p.child other) = none := by
  obtain ⟨hwritable, -, hroot, hparts⟩ := obstacle?_eq_none_iff.mp hclear
  have hp : p.isWritable = true := by
    simp only [FilePath.isWritable, FilePath.child, List.all_append, Bool.and_eq_true] at hwritable
    exact hwritable.1
  have hsibling : t.obstacleFrom [] (p.child other).parts = none :=
    obstacleFrom_sibling hother hparts
  exact obstacle?_eq_none_iff.mpr
    ⟨FilePath.isWritable_child hp hother.no_null, hroom, hroot, hsibling⟩

/-- A file that is written closes no way. -/
theorem obstacle?_put (hplace : t.lookup? place ≠ some .folder) (e : FileEntry)
    (hclear : t.obstacle? p = none) : (t.put place e).obstacle? p = none := by
  obtain ⟨hwritable, hsize, hroot, hparts⟩ := obstacle?_eq_none_iff.mp hclear
  refine obstacle?_eq_none_iff.mpr ⟨hwritable, hsize, hroot, ?_⟩
  refine obstacleFrom_transfer (P := fun _ => True) (fun _ _ => trivial) ?_ trivial hparts
  intro above part _ hfolder
  have hne : above ++ [part] ≠ place := by
    rintro rfl
    exact hplace hfolder
  rw [lookup?_put_of_ne t hne]
  exact ⟨trivial, hfolder⟩

/-- Neither does a file that is gone: no way leads through it. -/
theorem obstacle?_erase (hplace : t.lookup? place ≠ some .folder)
    (hclear : t.obstacle? p = none) : (t.erase place).obstacle? p = none := by
  obtain ⟨hwritable, hsize, hroot, hparts⟩ := obstacle?_eq_none_iff.mp hclear
  refine obstacle?_eq_none_iff.mpr ⟨hwritable, hsize, hroot, ?_⟩
  refine obstacleFrom_transfer (P := fun q => ¬ place <+: q) ?_ ?_ ?_ hparts
  · intro above habove hunder
    exact habove (hunder.trans (List.dropLast_prefix above))
  · intro above part habove hfolder
    have hbelow : ¬ place <+: above ++ [part] := by
      intro hunder
      rcases List.prefix_concat_iff.mp hunder with heq | hunder
      · rw [heq] at hplace
        exact hplace hfolder
      · exact habove hunder
    have hnot : place.isPrefixOf (above ++ [part]) = false := by
      rw [Bool.eq_false_iff, ne_eq, List.isPrefixOf_iff_prefix]
      exact hbelow
    rw [lookup?_erase t (by simp), hnot]
    exact ⟨hbelow, hfolder⟩
  · intro hunder
    rw [List.prefix_nil.mp hunder] at hplace
    exact hplace rfl

theorem erase_put_self (t : FileTree) (place : Location) (e : FileEntry) :
    (t.put place e).erase place = t.erase place := by
  have hself : place.isPrefixOf place = true := List.isPrefixOf_iff_prefix.mpr List.prefix_rfl
  simp only [put, erase, mk.injEq]
  generalize t.entries = es
  induction es with
  | nil => simp [insert, hself]
  | cons entry es ih =>
      by_cases h : entry.1 = place
      · simp [insert, h, hself]
      · simp [insert, h, List.filter_cons, ih]

/-! ## Files in place -/

theorem entry_put_self (hlookup : t.lookup? p.location ≠ some .folder)
    (hclear : t.obstacle? p = none) (content : FileContent) :
    (t.put p.location (.file content)).entry p = .ok (some (.file content)) := by
  have hplace : p.location ≠ [] := by
    intro hnil
    rw [hnil] at hlookup
    exact hlookup rfl
  rw [entry_of_clear (obstacle?_put hlookup _ hclear), lookup?_put_self t hplace]

/-- What stands where a file is to be put is no folder, and it can be reached. -/
structure Takes (t : FileTree) (p : FilePath) : Prop where
  clear : t.obstacle? p = none
  not_folder : t.lookup? p.location ≠ some .folder

theorem Takes.erase (h : t.Takes p) (hplace : t.lookup? place ≠ some .folder) :
    (t.erase place).Takes p where
  clear := obstacle?_erase hplace h.clear
  not_folder := by
    by_cases hnil : p.location = []
    · rw [hnil]
      exact absurd (by rw [hnil]; rfl) h.not_folder
    · rw [lookup?_erase t hnil]
      split
      · exact nofun
      · exact h.not_folder

/-- What is neither aside nor in place is as before. -/
theorem lookup?_erase_put {other : Location} (hbelow : ¬ place <+: other)
    (hne : other ≠ p.location) (e : FileEntry) :
    ((t.erase place).put p.location e).lookup? other = t.lookup? other := by
  have hnot : place.isPrefixOf other = false := by
    rw [Bool.eq_false_iff, ne_eq, List.isPrefixOf_iff_prefix]
    exact hbelow
  rw [lookup?_put_of_ne _ hne]
  by_cases hnil : other = []
  · rw [hnil]
    rfl
  · rw [lookup?_erase t hnil, hnot]
    rfl

/-! ## Changes that were made -/

theorem clear_of_entry_eq_ok {e : Option FileEntry} (h : t.entry p = .ok e) :
    t.obstacle? p = none ∧ t.lookup? p.location = e := by
  unfold entry at h
  split at h
  · cases h
  · next hclear => exact ⟨hclear, Except.ok.inj h⟩

theorem takes_of_write (h : t.write p content = .ok u) :
    t.Takes p ∧ u = t.put p.location (.file content) := by
  cases hentry : t.entry p with
  | error f => simp [write, hentry, bind, Except.bind] at h
  | ok e =>
      obtain ⟨hclear, hlookup⟩ := clear_of_entry_eq_ok hentry
      have hfolder : t.lookup? p.location ≠ some .folder := by
        intro hfolder
        rw [hlookup] at hfolder
        simp [write, hentry, hfolder, bind, Except.bind, throw, throwThe,
          MonadExceptOf.throw] at h
      rw [write_eq_ok hclear hfolder] at h
      exact ⟨⟨hclear, hfolder⟩, (Except.ok.inj h).symm⟩

theorem entry_of_write (h : t.write p content = .ok u) :
    u.entry p = .ok (some (.file content)) := by
  obtain ⟨htakes, rfl⟩ := takes_of_write h
  exact entry_put_self htakes.not_folder htakes.clear content

/-- What stands elsewhere is still found after a file was written. -/
theorem entry_of_write_of_ne {q : FilePath} {e : Option FileEntry} (h : t.write q content = .ok u)
    (hne : p.location ≠ q.location) (hentry : t.entry p = .ok e) : u.entry p = .ok e := by
  obtain ⟨htakes, rfl⟩ := takes_of_write h
  obtain ⟨hclear, hlookup⟩ := clear_of_entry_eq_ok hentry
  rw [entry_of_clear (obstacle?_put htakes.not_folder _ hclear), lookup?_put_of_ne t hne, hlookup]

/-- A folder is made where nothing stands, or is there already. -/
theorem ensureFolder_eq_ok (h : t.ensureFolder p = .ok u) :
    (t.isFolder p = true ∧ u = t) ∨
      (t.obstacle? p = none ∧ t.lookup? p.location = none ∧ u = t.put p.location .folder) := by
  unfold ensureFolder at h
  split at h
  · next made hmake =>
      obtain rfl := Except.ok.inj h
      cases hentry : t.entry p with
      | error f => simp [makeFolder, hentry, bind, Except.bind] at hmake
      | ok e =>
          rw [makeFolder, hentry] at hmake
          cases e with
          | some e => cases hmake
          | none =>
              obtain ⟨hclear, hlookup⟩ := clear_of_entry_eq_ok hentry
              exact .inr ⟨hclear, hlookup, (Except.ok.inj hmake).symm⟩
  · split at h
    · next hfolder => exact .inl ⟨hfolder, (Except.ok.inj h).symm⟩
    · cases h

theorem isFolder_of_ensureFolder (h : t.ensureFolder p = .ok u) : u.isFolder p = true := by
  obtain ⟨hfolder, rfl⟩ | ⟨hclear, hnothing, rfl⟩ := ensureFolder_eq_ok h
  · exact hfolder
  · have hplace : t.lookup? p.location ≠ some .folder := by simp [hnothing]
    have hne : p.location ≠ [] := by
      intro hnil
      rw [hnil] at hplace
      exact hplace rfl
    exact isFolder_iff.mpr ⟨obstacle?_put hplace _ hclear, lookup?_put_self t hne _⟩

/-- What stands elsewhere is still found after a folder was made. -/
theorem entry_of_ensureFolder_of_ne {q : FilePath} {e : Option FileEntry}
    (h : t.ensureFolder q = .ok u) (hne : p.location ≠ q.location) (hentry : t.entry p = .ok e) :
    u.entry p = .ok e := by
  obtain ⟨-, rfl⟩ | ⟨-, hnothing, rfl⟩ := ensureFolder_eq_ok h
  · exact hentry
  · obtain ⟨hclear, hlookup⟩ := clear_of_entry_eq_ok hentry
    have hplace : t.lookup? q.location ≠ some .folder := by simp [hnothing]
    rw [entry_of_clear (obstacle?_put hplace _ hclear), lookup?_put_of_ne t hne, hlookup]

theorem entry_of_rename (haside : t.entry aside = .ok (some (.file content)))
    (h : t.rename aside p = .ok u) : u.entry p = .ok (some (.file content)) := by
  rw [rename_eq_write haside] at h
  exact entry_of_write h

theorem exists_write_of_copy {source target : FilePath} (h : t.copy source target = .ok u) :
    ∃ content, t.write (t.copyTarget source target) content = .ok u := by
  cases hread : t.read source with
  | error f => simp [copy, hread, bind, Except.bind] at h
  | ok content =>
      rw [copy, hread] at h
      exact ⟨content, h⟩

theorem exists_perform_of_performAll {a : FileAction} {as : List FileAction}
    (h : t.performAll (a :: as) = (u, none)) :
    ∃ v, t.perform a = .ok v ∧ v.performAll as = (u, none) := by
  simp only [performAll] at h
  split at h
  · next v hv => exact ⟨v, hv, h⟩
  · simp at h

/-! ## A file replaced -/

/-- The new content is in place, what was aside is gone, and everything else is as before. -/
theorem replaced_of_performAll
    (h : t.performAll [.write aside content, .rename aside p] = (u, none)) :
    u.entry p = .ok (some (.file content)) ∧
      ∀ place, ¬ aside.location <+: place → place ≠ p.location →
        u.lookup? place = t.lookup? place := by
  obtain ⟨v, hwrite, hrest⟩ := exists_perform_of_performAll h
  obtain ⟨w, hrename, hdone⟩ := exists_perform_of_performAll hrest
  obtain rfl : w = u := (Prod.mk.inj hdone).1
  have haside := entry_of_write hwrite
  refine ⟨entry_of_rename haside hrename, fun place hbelow hne => ?_⟩
  obtain ⟨-, rfl⟩ := takes_of_write hwrite
  replace hrename := (rename_eq_write haside).symm.trans hrename
  rw [erase_put_self] at hrename
  obtain ⟨-, rfl⟩ := takes_of_write hrename
  exact lookup?_erase_put hbelow hne _

theorem exists_performAll_replace (haside : t.Takes aside) (hp : t.Takes p)
    (content : FileContent) :
    ∃ u, t.performAll [.write aside content, .rename aside p] = (u, none) := by
  have hgone := hp.erase haside.not_folder
  have hwrite : t.write aside content = .ok (t.put aside.location (.file content)) :=
    write_eq_ok haside.clear haside.not_folder content
  have hrename : (t.put aside.location (.file content)).rename aside p =
      .ok ((t.erase aside.location).put p.location (.file content)) := by
    rw [rename_eq_write (entry_put_self haside.not_folder haside.clear content), erase_put_self]
    exact write_eq_ok hgone.clear hgone.not_folder content
  refine ⟨(t.erase aside.location).put p.location (.file content), ?_⟩
  simp only [performAll, perform, hwrite, hrename]

end FileTree

end Questline
