import Mathlib.Data.List.Basic
import Questline.Files.Tree

/-!
# Ways to files

Nothing is in the way of a file inside a folder that can be reached, as long as
its name and the whole path are short enough.  What is reached stays reachable
while nothing is taken away, and then every change to a file does its work.
-/

namespace Questline

theorem Text.joined_append_singleton (mark : String) {xs : List String} (h : xs ≠ [])
    (s : String) : Text.joined mark (xs ++ [s]) = Text.joined mark xs ++ mark ++ s := by
  induction xs with
  | nil => exact absurd rfl h
  | cons x xs ih =>
      cases xs with
      | nil => rfl
      | cons y ys =>
          have hrest := ih (List.cons_ne_nil y ys)
          simp only [List.cons_append, Text.joined] at hrest ⊢
          rw [hrest]
          simp only [String.append_assoc]

namespace FilePath

/-- A name for a file in any folder, with at most so many bytes. -/
structure IsPlain (limit : Nat) (name : String) : Prop where
  ne_up : name ≠ ".."
  size_le : name.utf8ByteSize ≤ limit
  no_null : '\x00' ∉ name.toList

theorem IsPlain.mono {limit more : Nat} {name : String} (h : IsPlain limit name)
    (hle : limit ≤ more) : IsPlain more name :=
  ⟨h.ne_up, Nat.le_trans h.size_le hle, h.no_null⟩

/-- All files of a folder are written with the same lead: the folder, and perhaps one mark more. -/
theorem exists_text_child_eq (p : FilePath) :
    ∃ lead, lead.utf8ByteSize ≤ p.text.utf8ByteSize + 1 ∧
      ∀ name, (p.child name).text = lead ++ name := by
  have hsize : ∀ s : String, (s ++ "/").utf8ByteSize ≤ s.utf8ByteSize + 1 := by
    intro s
    rw [String.utf8ByteSize_append]
    exact Nat.le_refl _
  have hjoined : ∀ {xs : List String}, xs ≠ [] → ∀ name,
      Text.joined "/" (xs ++ [name]) = Text.joined "/" xs ++ "/" ++ name :=
    fun hxs name => Text.joined_append_singleton "/" hxs name
  obtain ⟨anchor, parts⟩ := p
  cases anchor with
  | here =>
      cases parts with
      | nil => exact ⟨"", by decide, fun name => by simp [text, child, Text.joined]⟩
      | cons x xs => exact ⟨_, hsize _, hjoined (List.cons_ne_nil x xs)⟩
  | named directory => exact ⟨_, hsize _, hjoined (List.cons_ne_nil directory parts)⟩
  | root =>
      cases parts with
      | nil => exact ⟨"/", by decide, fun name => by simp [text, child, Text.joined]⟩
      | cons x xs =>
          refine ⟨_, hsize _, fun name => ?_⟩
          simp only [text, child, List.cons_append]
          rw [← List.cons_append, hjoined (List.cons_ne_nil x xs)]
          simp only [String.append_assoc]

theorem text_child_size_le (p : FilePath) (name : String) :
    (p.child name).text.utf8ByteSize ≤ p.text.utf8ByteSize + 1 + name.utf8ByteSize := by
  obtain ⟨lead, hsize, hlead⟩ := exists_text_child_eq p
  rw [hlead, String.utf8ByteSize_append]
  exact Nat.add_le_add_right hsize _

theorem text_child_size_mono (p : FilePath) {name other : String}
    (h : name.utf8ByteSize ≤ other.utf8ByteSize) :
    (p.child name).text.utf8ByteSize ≤ (p.child other).text.utf8ByteSize := by
  obtain ⟨lead, -, hlead⟩ := exists_text_child_eq p
  rw [hlead, hlead, String.utf8ByteSize_append, String.utf8ByteSize_append]
  exact Nat.add_le_add_left h _

theorem isWritable_child {p : FilePath} {name : String} (hp : p.isWritable = true)
    (h : '\x00' ∉ name.toList) : (p.child name).isWritable = true := by
  simp_all [isWritable, child]

end FilePath

namespace FileTree

variable {t u : FileTree} {p : FilePath} {name : String}

/-- What stands somewhere in the first tree stands there in the second. -/
def Within (t u : FileTree) : Prop :=
  ∀ place e, t.lookup? place = some e → u.lookup? place = some e

/-- A name that leads up, or to a folder, is no obstacle. -/
theorem obstacleFrom_cons_of_open {above : Location} {part : String} {rest : List String}
    (h : part ≠ ".." → part.utf8ByteSize ≤ FilePath.nameLimit ∧
      t.lookup? (above ++ [part]) = some .folder) :
    t.obstacleFrom above (part :: rest) = t.obstacleFrom (FilePath.stepTo above part) rest := by
  by_cases hup : part = ".."
  · simp [obstacleFrom, FilePath.stepTo, hup]
  · obtain ⟨hsize, hfolder⟩ := h hup
    rw [obstacleFrom, if_neg hup, if_neg (Nat.not_lt.mpr hsize), FilePath.stepTo, if_neg hup,
      hfolder]
    split
    · next hlast => rw [List.isEmpty_iff.mp hlast, obstacleFrom]
    · rfl

theorem obstacleFrom_cons_eq_none_iff {above : Location} {part : String} {rest : List String} :
    t.obstacleFrom above (part :: rest) = none ↔
      (part ≠ ".." → part.utf8ByteSize ≤ FilePath.nameLimit ∧
        (rest ≠ [] → t.lookup? (above ++ [part]) = some .folder)) ∧
      t.obstacleFrom (FilePath.stepTo above part) rest = none := by
  by_cases hup : part = ".."
  · simp [obstacleFrom, FilePath.stepTo, hup]
  · rw [obstacleFrom, if_neg hup, FilePath.stepTo, if_neg hup]
    split
    · next hsize => simp [hup, Nat.not_le.mpr hsize]
    · next hsize =>
        split
        · next hlast => simp [List.isEmpty_iff.mp hlast, obstacleFrom, Nat.not_lt.mp hsize]
        · next hlast =>
            have hrest : rest ≠ [] := by simpa using hlast
            split <;> simp_all

/-- What is clear in one tree is clear in another that has the same folders on the way.  `P` holds
of every place on the way and need not hold of any other. -/
theorem obstacleFrom_transfer {P : Location → Prop} (hup : ∀ place, P place → P place.dropLast)
    (hdown : ∀ place part, P place → t.lookup? (place ++ [part]) = some .folder →
      P (place ++ [part]) ∧ u.lookup? (place ++ [part]) = some .folder)
    {above : Location} {parts : List String} (habove : P above)
    (hclear : t.obstacleFrom above parts = none) : u.obstacleFrom above parts = none := by
  induction parts generalizing above with
  | nil => rfl
  | cons part rest ih =>
      obtain ⟨hpart, hrest⟩ := obstacleFrom_cons_eq_none_iff.mp hclear
      refine obstacleFrom_cons_eq_none_iff.mpr ⟨fun hne => ?_, ?_⟩
      · obtain ⟨hsize, hfolder⟩ := hpart hne
        exact ⟨hsize, fun hmore => (hdown above part habove (hfolder hmore)).2⟩
      · by_cases hmore : rest = []
        · rw [hmore]
          rfl
        · refine ih ?_ hrest
          unfold FilePath.stepTo
          split
          · exact hup above habove
          · next hne => exact (hdown above part habove ((hpart hne).2 hmore)).1

theorem obstacleFrom_mono (h : t.Within u) {above : Location} {parts : List String}
    (hclear : t.obstacleFrom above parts = none) : u.obstacleFrom above parts = none := by
  refine obstacleFrom_transfer (P := fun _ => True) (fun _ _ => trivial) ?_ trivial hclear
  intro place part _ hfolder
  exact ⟨trivial, h _ _ hfolder⟩

/-- Beyond a folder that can be reached, the way goes on from there. -/
theorem obstacleFrom_append {above : Location} {parts : List String}
    (hclear : t.obstacleFrom above parts = none)
    (hfolder : t.lookup? (parts.foldl FilePath.stepTo above) = some .folder)
    (rest : List String) :
    t.obstacleFrom above (parts ++ rest) =
      t.obstacleFrom (parts.foldl FilePath.stepTo above) rest := by
  induction parts generalizing above with
  | nil => rfl
  | cons part parts ih =>
      obtain ⟨hpart, hparts⟩ := obstacleFrom_cons_eq_none_iff.mp hclear
      rw [List.cons_append, List.foldl_cons, obstacleFrom_cons_of_open]
      · exact ih hparts hfolder
      · intro hup
        obtain ⟨hsize, hopen⟩ := hpart hup
        refine ⟨hsize, ?_⟩
        cases parts with
        | nil => simpa [FilePath.stepTo, hup] using hfolder
        | cons next parts => exact hopen (List.cons_ne_nil next parts)

theorem isFolder_iff : t.isFolder p = true ↔
    t.obstacle? p = none ∧ t.lookup? p.location = some .folder := by
  unfold isFolder entry? entry
  cases t.obstacle? p with
  | some kind => simp
  | none =>
      cases t.lookup? p.location with
      | none => simp
      | some e => cases e <;> simp [FileEntry.isFolder]

theorem entry_of_clear (h : t.obstacle? p = none) : t.entry p = .ok (t.lookup? p.location) := by
  rw [entry, h]

theorem obstacle?_eq_none_iff : t.obstacle? p = none ↔
    p.isWritable = true ∧ p.text.utf8ByteSize ≤ FilePath.textLimit ∧ p.anchor ≠ .root ∧
      t.obstacleFrom [] p.parts = none := by
  unfold obstacle?
  split
  · next hnull => simp_all
  · split
    · next hsize => simp [Nat.not_le.mpr hsize]
    · split <;> simp_all

theorem obstacle?_eq_some {kind : FileFaultKind} (hwritable : p.isWritable = true)
    (hroot : p.anchor ≠ .root) (hparts : t.obstacleFrom [] p.parts = some kind)
    (hsize : p.text.utf8ByteSize ≤ FilePath.textLimit ∨ kind = .nameTooLong) :
    t.obstacle? p = some kind := by
  rw [obstacle?, if_neg (by simp [hwritable]), if_neg hroot, hparts]
  split
  · next hlong =>
      obtain hshort | rfl := hsize
      · exact absurd hlong (Nat.not_lt.mpr hshort)
      · rfl
  · rfl

theorem obstacle?_mono (h : t.Within u) (hclear : t.obstacle? p = none) : u.obstacle? p = none := by
  obtain ⟨hwritable, hsize, hroot, hparts⟩ := obstacle?_eq_none_iff.mp hclear
  exact obstacle?_eq_none_iff.mpr ⟨hwritable, hsize, hroot, obstacleFrom_mono h hparts⟩

theorem isFolder_mono (h : t.Within u) (hfolder : t.isFolder p = true) : u.isFolder p = true := by
  obtain ⟨hclear, hlookup⟩ := isFolder_iff.mp hfolder
  exact isFolder_iff.mpr ⟨obstacle?_mono h hclear, h _ _ hlookup⟩

theorem isWritable_of_isFolder (hp : t.isFolder p = true) : p.isWritable = true :=
  (obstacle?_eq_none_iff.mp (isFolder_iff.mp hp).1).1

theorem anchor_ne_root_of_isFolder (hp : t.isFolder p = true) : p.anchor ≠ .root :=
  (obstacle?_eq_none_iff.mp (isFolder_iff.mp hp).1).2.2.1

theorem obstacleFrom_below (hp : t.isFolder p = true) (rest : List String) :
    t.obstacleFrom [] (p.parts ++ rest) = t.obstacleFrom p.location rest := by
  obtain ⟨hclear, hlookup⟩ := isFolder_iff.mp hp
  obtain ⟨-, -, -, hparts⟩ := obstacle?_eq_none_iff.mp hclear
  exact obstacleFrom_append hparts hlookup rest

theorem obstacle?_child (hp : t.isFolder p = true)
    (hname : FilePath.IsPlain FilePath.nameLimit name)
    (hroom : (p.child name).text.utf8ByteSize ≤ FilePath.textLimit) :
    t.obstacle? (p.child name) = none := by
  have hwritable := FilePath.isWritable_child (isWritable_of_isFolder hp) hname.no_null
  have hroot : p.anchor ≠ .root := anchor_ne_root_of_isFolder hp
  have hsize := hname.size_le
  refine obstacle?_eq_none_iff.mpr ⟨hwritable, hroom, hroot, ?_⟩
  rw [FilePath.child, obstacleFrom_below hp]
  simp [obstacleFrom, hname.ne_up, hsize]

/-- Inside a folder that can be reached, no folder is missing on the way. -/
theorem obstacle?_child_ne_missing (hp : t.isFolder p = true) (name : String) :
    t.obstacle? (p.child name) ≠ some .missing := by
  intro hmissing
  have hroot : p.anchor ≠ .root := anchor_ne_root_of_isFolder hp
  have hparts : t.obstacleFrom [] (p.child name).parts = some .missing := by
    unfold obstacle? at hmissing
    split at hmissing
    · cases hmissing
    · split at hmissing
      · cases hmissing
      · rwa [if_neg (by exact hroot)] at hmissing
  rw [FilePath.child, obstacleFrom_below hp] at hparts
  simp only [obstacleFrom] at hparts
  split at hparts
  · cases hparts
  · split at hparts <;> simp at hparts

theorem entry_child (hp : t.isFolder p = true) (hname : FilePath.IsPlain FilePath.nameLimit name)
    (hroom : (p.child name).text.utf8ByteSize ≤ FilePath.textLimit) :
    t.entry (p.child name) = .ok (t.lookup? (p.location ++ [name])) := by
  rw [entry_of_clear (obstacle?_child hp hname hroom), FilePath.location_child p hname.ne_up]

/-- One can always look for a file two levels down, if the names are short enough. -/
theorem exists_probe_child_child_eq_ok {folder : String} (hp : t.isFolder p = true)
    (hfolder : FilePath.IsPlain FilePath.nameLimit folder)
    (hname : FilePath.IsPlain FilePath.nameLimit name)
    (hroom : ((p.child folder).child name).text.utf8ByteSize ≤ FilePath.textLimit) :
    ∃ e, t.probe ((p.child folder).child name) = .ok e := by
  have hobstacle : t.obstacle? ((p.child folder).child name) ≠ some .nameTooLong := by
    intro hlong
    have hparts : t.obstacleFrom [] ((p.child folder).child name).parts = some .nameTooLong := by
      have hwritable := FilePath.isWritable_child
        (FilePath.isWritable_child (isWritable_of_isFolder hp) hfolder.no_null) hname.no_null
      have hroot : p.anchor ≠ .root := anchor_ne_root_of_isFolder hp
      rwa [obstacle?, if_neg (by simp [hwritable]), if_neg (Nat.not_lt.mpr hroom),
        if_neg (by exact hroot)] at hlong
    simp only [FilePath.child, List.append_assoc] at hparts
    rw [obstacleFrom_below hp] at hparts
    have hshort := hname.size_le
    simp only [obstacleFrom, hfolder.ne_up, if_false, Nat.not_lt.mpr hfolder.size_le, hname.ne_up,
      Nat.not_lt.mpr hshort, List.singleton_append, List.isEmpty_cons, Bool.false_eq_true,
      List.isEmpty_nil, if_true] at hparts
    split at hparts <;> cases hparts
  unfold probe entry
  cases hkind : t.obstacle? ((p.child folder).child name) with
  | none => exact ⟨_, rfl⟩
  | some kind =>
      cases kind with
      | nameTooLong => exact absurd hkind hobstacle
      | _ => exact ⟨none, rfl⟩

theorem entry_child_child_of_long {folder : String} (hp : t.isFolder p = true)
    (hup : folder ≠ "..") (hnull : '\x00' ∉ folder.toList)
    (hlong : FilePath.nameLimit < folder.utf8ByteSize) (hname : '\x00' ∉ name.toList) :
    t.entry ((p.child folder).child name) = .error ⟨.nameTooLong, (p.child folder).child name⟩ := by
  have hroot : p.anchor ≠ .root := anchor_ne_root_of_isFolder hp
  have hparts : t.obstacleFrom [] ((p.child folder).child name).parts = some .nameTooLong := by
    simp only [FilePath.child, List.append_assoc]
    rw [obstacleFrom_below hp]
    simp [obstacleFrom, hup, hlong]
  have hwritable := FilePath.isWritable_child
    (FilePath.isWritable_child (isWritable_of_isFolder hp) hnull) hname
  rw [entry, obstacle?_eq_some hwritable hroot hparts (.inr rfl)]

theorem entry_child_child_of_none {folder : String} (hp : t.isFolder p = true)
    (hfolder : FilePath.IsPlain FilePath.nameLimit folder) (hname : '\x00' ∉ name.toList)
    (hroom : ((p.child folder).child name).text.utf8ByteSize ≤ FilePath.textLimit)
    (hnone : t.lookup? (p.location ++ [folder]) = none) :
    t.entry ((p.child folder).child name) = .error ⟨.missing, (p.child folder).child name⟩ := by
  have hroot : p.anchor ≠ .root := anchor_ne_root_of_isFolder hp
  have hparts : t.obstacleFrom [] ((p.child folder).child name).parts = some .missing := by
    simp only [FilePath.child, List.append_assoc]
    rw [obstacleFrom_below hp]
    simp [obstacleFrom, hfolder.ne_up, hfolder.size_le, hnone]
  have hwritable := FilePath.isWritable_child
    (FilePath.isWritable_child (isWritable_of_isFolder hp) hfolder.no_null) hname
  rw [entry, obstacle?_eq_some hwritable hroot hparts (.inl hroom)]

/-- A path that is too long is so in every tree. -/
theorem entry_eq_of_long (t u : FileTree)
    (hlong : FilePath.textLimit < p.text.utf8ByteSize) : t.entry p = u.entry p := by
  cases hwritable : p.isWritable <;> simp [entry, obstacle?, hwritable, hlong]

theorem size_le_of_obstacle?_child (hp : t.isFolder p = true) (hup : name ≠ "..")
    (hclear : t.obstacle? (p.child name) = none) : name.utf8ByteSize ≤ FilePath.nameLimit := by
  obtain ⟨-, -, -, hparts⟩ := obstacle?_eq_none_iff.mp hclear
  rw [FilePath.child, obstacleFrom_below hp] at hparts
  exact ((obstacleFrom_cons_eq_none_iff.mp hparts).1 hup).1

/-! ## Changes to files -/

theorem read_eq_ok_iff {content : FileContent} :
    t.read p = .ok content ↔ t.entry p = .ok (some (.file content)) := by
  unfold read
  cases t.entry p with
  | error f => simp [bind, Except.bind]
  | ok e =>
      cases e with
      | none => simp [bind, Except.bind, throw, throwThe, MonadExceptOf.throw]
      | some e =>
          cases e <;> simp [bind, Except.bind, pure, Except.pure, throw, throwThe,
            MonadExceptOf.throw]

theorem read_eq_ok {content : FileContent} (h : t.entry p = .ok (some (.file content))) :
    t.read p = .ok content :=
  read_eq_ok_iff.mpr h

theorem write_eq_ok (h : t.obstacle? p = none) (hlookup : t.lookup? p.location ≠ some .folder)
    (content : FileContent) : t.write p content = .ok (t.put p.location (.file content)) := by
  rw [write, entry_of_clear h]
  cases hentry : t.lookup? p.location with
  | none => rfl
  | some e =>
      cases e with
      | folder => exact absurd hentry hlookup
      | file old => rfl

theorem ensureFolder_eq_put (h : t.obstacle? p = none) (hlookup : t.lookup? p.location = none) :
    t.ensureFolder p = .ok (t.put p.location .folder) := by
  have hmake : t.makeFolder p = .ok (t.put p.location .folder) := by
    rw [makeFolder, entry_of_clear h, hlookup]
    rfl
  rw [ensureFolder, hmake]

theorem ensureFolder_eq_self (h : t.isFolder p = true) : t.ensureFolder p = .ok t := by
  obtain ⟨hclear, hlookup⟩ := isFolder_iff.mp h
  have hmake : t.makeFolder p = .error ⟨.alreadyThere, p⟩ := by
    rw [makeFolder, entry_of_clear hclear, hlookup]
    rfl
  rw [ensureFolder, hmake]
  simp only [h, if_true]

theorem obstacle?_of_ensureFolder_eq_error {f : FileFault} (h : t.ensureFolder p = .error f) :
    t.obstacle? p = some f.kind ∨ f.kind = .alreadyThere := by
  unfold ensureFolder at h
  split at h
  · cases h
  · next g hmake =>
      have hg : g = f := by
        split at h
        · cases h
        · exact Except.error.inj h
      subst hg
      unfold makeFolder entry at hmake
      cases hkind : t.obstacle? p with
      | some kind =>
          rw [hkind] at hmake
          obtain rfl := Except.error.inj hmake
          exact .inl rfl
      | none =>
          rw [hkind] at hmake
          cases hlookup : t.lookup? p.location with
          | none => simp [hlookup, bind, Except.bind, pure, Except.pure] at hmake
          | some e =>
              rw [hlookup] at hmake
              obtain rfl := Except.error.inj hmake
              exact .inr rfl

/-- The folders above a folder are left alone if it can be made, or if more than they is missing. -/
theorem makeFolders_child (t : FileTree) (p : FilePath) (name : String) :
    t.makeFolders (p.child name) =
      match t.ensureFolder (p.child name) with
      | .ok t => .ok t
      | .error f =>
        if f.kind = .missing then do (← t.makeFolders p).ensureFolder (p.child name)
        else .error f := by
  have hparts : (p.child name).parts.reverse = name :: p.parts.reverse := by
    simp [FilePath.child]
  rw [makeFolders, hparts, ensureFolders]
  simp only [List.reverse_cons, List.reverse_reverse]
  rfl

theorem kind_ne_missing_of_ensureFolder (hp : t.isFolder p = true) {f : FileFault}
    (h : t.ensureFolder (p.child name) = .error f) : f.kind ≠ .missing := by
  intro hkind
  rcases obstacle?_of_ensureFolder_eq_error h with hobstacle | hthere
  · rw [hkind] at hobstacle
    exact obstacle?_child_ne_missing hp name hobstacle
  · rw [hkind] at hthere
    contradiction

theorem makeFolders_child_of_isFolder (hp : t.isFolder p = true) (name : String) :
    t.makeFolders (p.child name) = t.ensureFolder (p.child name) := by
  rw [makeFolders_child]
  cases hmake : t.ensureFolder (p.child name) with
  | ok u => rfl
  | error f => exact if_neg (kind_ne_missing_of_ensureFolder hp hmake)

theorem removeTree_eq_erase (h : t.isFolder p = true) :
    t.removeTree p = .ok (t.erase p.location) := by
  obtain ⟨hclear, hlookup⟩ := isFolder_iff.mp h
  rw [removeTree, entry_of_clear hclear, hlookup]
  rfl

theorem copy_eq_write {source target : FilePath} {content : FileContent}
    (hsource : t.entry source = .ok (some (.file content))) (htarget : t.isFolder target = false) :
    t.copy source target = t.write target content := by
  rw [copy, read_eq_ok hsource, copyTarget, htarget]
  rfl

theorem rename_eq_write {source target : FilePath} {content : FileContent}
    (hsource : t.entry source = .ok (some (.file content))) :
    t.rename source target = (t.erase source.location).write target content := by
  rw [rename, read_eq_ok hsource]
  rfl

/-! ## Names in a folder -/

/-- The names right inside a folder, in the order in which they came. -/
def namesIn (t : FileTree) (folder : Location) : List String :=
  t.entries.filterMap fun p => childName? folder p.1

theorem children_eq_sortTexts (h : t.isFolder p = true) :
    t.children p = Text.sortTexts (t.namesIn p.location) := by
  rw [children, h]
  rfl

theorem childName?_eq_some_iff {folder place : Location} :
    childName? folder place = some name ↔ place = folder ++ [name] := by
  unfold childName?
  rcases List.eq_nil_or_concat place with rfl | ⟨above, last, rfl⟩
  · simp
  · simp only [List.getLast?_concat, List.dropLast_concat, List.concat_eq_append]
    split
    · next h => simp [h]
    · next h =>
        simp only [reduceCtorEq, false_iff]
        intro heq
        exact h (List.append_inj_left' heq rfl)

theorem namesIn_put_of_lookup?_ne_none {place folder : Location} (hplace : place ≠ [])
    (h : t.lookup? place ≠ none) (e : FileEntry) :
    (t.put place e).namesIn folder = t.namesIn folder := by
  have hlookup : lookup place t.entries ≠ none := by simpa [lookup?, hplace] using h
  simp only [namesIn, put]
  generalize t.entries = es at hlookup ⊢
  induction es with
  | nil => exact absurd rfl hlookup
  | cons p es ih =>
      by_cases hp : p.1 = place
      · simp [insert, hp, List.filterMap_cons]
      · have hrest := ih (by simpa [lookup, hp] using hlookup)
        simp [insert, hp, List.filterMap_cons, hrest]

theorem namesIn_put_of_lookup?_eq_none {place folder : Location} (h : t.lookup? place = none)
    (e : FileEntry) :
    (t.put place e).namesIn folder = t.namesIn folder ++ (childName? folder place).toList := by
  have hplace : place ≠ [] := by
    rintro rfl
    simp [lookup?] at h
  have hlookup : lookup place t.entries = none := by simpa [lookup?, hplace] using h
  simp only [namesIn, put]
  generalize t.entries = es at hlookup ⊢
  induction es with
  | nil => cases hname : childName? folder place <;> simp [insert, hname]
  | cons p es ih =>
      by_cases hp : p.1 = place
      · simp [lookup, hp] at hlookup
      · have hrest := ih (by simpa [lookup, hp] using hlookup)
        cases hname : childName? folder p.1 <;> simp [insert, hp, hname, hrest]

theorem namesIn_put_of_childName?_eq_none {place folder : Location} (hplace : place ≠ [])
    (h : childName? folder place = none) (e : FileEntry) :
    (t.put place e).namesIn folder = t.namesIn folder := by
  by_cases hlookup : t.lookup? place = none
  · rw [namesIn_put_of_lookup?_eq_none hlookup, h]
    exact List.append_nil _
  · exact namesIn_put_of_lookup?_ne_none hplace hlookup e

theorem namesIn_erase (t : FileTree) (place folder : Location) :
    (t.erase place).namesIn folder =
      (t.namesIn folder).filter fun name => !place.isPrefixOf (folder ++ [name]) := by
  simp only [namesIn, erase, List.filterMap_filter, List.filter_filterMap]
  refine List.filterMap_congr ?_
  rintro ⟨other, e⟩ -
  cases hname : childName? folder other with
  | none => simp
  | some name =>
      obtain rfl := childName?_eq_some_iff.mp hname
      by_cases hp : place.isPrefixOf (folder ++ [name]) <;> simp_all [Option.filter]

end FileTree

end Questline
