import Questline.Proofs.Save.Loading

/-!
# Loading a slot again

Loading changes the files only if it falls back on the backup, which then takes the place of the
current save.  Loading once more changes nothing and finds the same player, unless the backup was
a flat save with variables that are shown otherwise than they are written, or has become too deep
to be copied when it was brought to the current schema.
-/

namespace Questline

namespace PairTable

/-- Names that are written as they are shown, each of them once, give the same variables either
way. -/
theorem variablesIn_written_eq_described {t : PairTable}
    (hnames : ∀ p ∈ t, writtenName p.1 = p.1.describe)
    (hnodup : (t.map fun p => p.1.describe).Nodup) :
    LooseSheet.variablesIn t.written = LooseSheet.variablesIn t.described := by
  have hwritten : t.written = t.map fun p => (p.1.describe, p.2) := by
    have hmap : (t.map fun p => (writtenName p.1, p.2)) = t.map fun p => (p.1.describe, p.2) :=
      List.map_congr_left fun p hp => by rw [hnames p hp]
    rw [written, hmap, Table.ofPairs_eq_self]
    rwa [Table.keys, List.map_map]
  have hdescribed : t.described = (t.filter fun p => !p.2.isNull).map fun p =>
      (p.1.describe, p.2) := by
    rw [described, Table.ofPairs_eq_self]
    rw [Table.keys, List.map_map]
    exact hnodup.sublist (List.filter_sublist.map _)
  rw [hwritten, hdescribed, LooseSheet.variablesIn, LooseSheet.variablesIn, List.filterMap_map,
    List.filterMap_map, List.filterMap_filter]
  refine List.filterMap_congr fun p _ => ?_
  cases h : p.2.isNull <;> simp [h]

end PairTable

namespace Migration

variable {spell other : Spelling} {save sheet : Json} {t : PairTable}

/-- The variables of a save without a block for the player. -/
def flatVariables? (save : Json) : Option PairTable :=
  if (save.memberOrNull "state").isObject then none
  else (PairTable.ofJson (givenOr save "questVars" (.obj []))).toOption

/-- The variables of a flat save are shown as they are written. -/
def SpeltAlike (save : Json) : Prop :=
  ∀ t, flatVariables? save = some t →
    LooseSheet.variablesIn t.written = LooseSheet.variablesIn t.described

/-- However the names are spelt, the sheets of a flat save differ in their variables only. -/
theorem ofJson_flatSheet {otherSheet : Json}
    (ht : PairTable.ofJson (givenOr save "questVars" (.obj [])) = .ok t)
    (h : flatSheet spell save = .ok sheet) (hother : flatSheet other save = .ok otherSheet) :
    Player.ofJson sheet =
      { Player.ofJson otherSheet with vars := LooseSheet.variablesIn (spell t) } := by
  obtain ⟨tags, vars, log, htags, hvars, hlog, rfl⟩ := flatSheet_eq_ok h
  obtain ⟨tags', vars', log', htags', hvars', hlog', rfl⟩ := flatSheet_eq_ok hother
  obtain rfl := Except.ok.inj (htags.symm.trans htags')
  obtain rfl := Except.ok.inj (hvars.symm.trans ht)
  obtain rfl := Except.ok.inj (hlog.symm.trans hlog')
  rfl

theorem toSecondSchema_of_state {current : Json}
    (hstate : (save.memberOrNull "state").isObject = true)
    (h : toSecondSchema spell save = .ok current) :
    current.memberOrNull "state" = save.memberOrNull "state" := by
  obtain ⟨state, hok, hcurrent⟩ := bind_eq_ok_iff.mp h
  rw [stateOf, hstate] at hok
  obtain rfl := Except.ok.inj hok
  obtain rfl := Except.ok.inj hcurrent
  rfl

theorem toSecondSchema_of_flat {current : Json}
    (hflat : (save.memberOrNull "state").isObject = false)
    (h : toSecondSchema spell save = .ok current) :
    ∃ sheet, flatSheet spell save = .ok sheet ∧
      (current.memberOrNull "state").memberOrNull "player" = sheet := by
  obtain ⟨state, hok, hcurrent⟩ := bind_eq_ok_iff.mp h
  rw [stateOf, hflat] at hok
  obtain ⟨sheet, hsheet, hstate⟩ := bind_eq_ok_iff.mp hok
  obtain rfl := Except.ok.inj hstate
  obtain rfl := Except.ok.inj hcurrent
  exact ⟨sheet, hsheet, rfl⟩

end Migration

namespace SaveStore

open Migration (flatVariables? SpeltAlike)

variable {s : SaveStore} {files : FileTree} {name slot : String} {spell : Spelling}
  {v written : Json} {save : Save}

/-! ## The spelling of a save -/

theorem checkSave_eq_ok (h : checkSave v = .ok written) :
    written = v ∧ (v.memberOrNull "state").isObject = true := by
  simp only [checkSave] at h
  split at h
  · cases h
  · next hstate =>
      split at h
      · cases h
      · split at h
        · cases h
        · exact ⟨(Except.ok.inj h).symm, by simpa using hstate⟩

theorem currentSave_eq_ok (h : currentSave spell v = .ok written) :
    migrateSpelt spell v schema = .ok written ∧ checkSave written = .ok written := by
  unfold currentSave at h
  split at h
  · cases h
  · next save hmigrate =>
      obtain ⟨rfl, -⟩ := checkSave_eq_ok h
      exact ⟨hmigrate, h⟩

/-- A save that is read as it was written is left as it is, unless it is too deep to be copied. -/
theorem currentSave_of_written (h : currentSave spell v = .ok written) (other : Spelling) :
    currentSave other written =
      if written.isCopyable then .ok written else .error (.migration (.fault .tooDeep)) := by
  obtain ⟨hmigrate, hcheck⟩ := currentSave_eq_ok h
  have hcurrent := Migration.isOfSchema_of_migrateSpelt hmigrate
  rw [currentSave, Migration.migrateSpelt_of_current other hcurrent]
  cases written.isCopyable with
  | true => exact hcheck
  | false => rfl

/-- Where the player has a block of his own, the spelling does not matter. -/
theorem playerOf_of_state (hstate : (v.memberOrNull "state").isObject = true)
    (h : currentSave spell v = .ok written) : playerOf written = playerOf v := by
  obtain ⟨hmigrate, -⟩ := currentSave_eq_ok h
  obtain ⟨-, rfl⟩ | ⟨-, hstep⟩ := Migration.migrateSpelt_eq_ok hmigrate
  · rfl
  · rw [playerOf, Migration.toSecondSchema_of_state hstate hstep, playerOf]

theorem playerOf_of_flat (hflat : (v.memberOrNull "state").isObject = false)
    (h : currentSave spell v = .ok written) :
    ∃ sheet, Migration.flatSheet spell v = .ok sheet ∧ playerOf written = .ofJson sheet := by
  obtain ⟨hmigrate, hcheck⟩ := currentSave_eq_ok h
  obtain ⟨-, rfl⟩ | ⟨-, hstep⟩ := Migration.migrateSpelt_eq_ok hmigrate
  · rw [(checkSave_eq_ok hcheck).2] at hflat
    contradiction
  · obtain ⟨sheet, hsheet, hplayer⟩ := Migration.toSecondSchema_of_flat hflat hstep
    exact ⟨sheet, hsheet, congrArg Player.ofJson hplayer⟩

theorem saveOf_eq_ok (h : saveOf v = .ok save) :
    currentSave PairTable.written v = .ok save.written ∧
      ∃ shown, currentSave PairTable.described v = .ok shown ∧ playerOf shown = save.player := by
  obtain ⟨written, hwritten, h⟩ := bind_eq_ok_iff.mp h
  obtain ⟨shown, hshown, h⟩ := bind_eq_ok_iff.mp h
  obtain rfl := Except.ok.inj h
  exact ⟨hwritten, shown, hshown, rfl⟩

theorem saveOf_written (h : saveOf v = .ok save) :
    saveOf save.written =
      if save.written.isCopyable then .ok ⟨save.written, playerOf save.written⟩
      else .error (.migration (.fault .tooDeep)) := by
  have hagain := currentSave_of_written (saveOf_eq_ok h).1
  rw [saveOf, hagain, hagain]
  cases save.written.isCopyable <;> rfl

theorem levels_written_le (h : saveOf v = .ok save) : save.written.levels ≤ v.levels + 2 :=
  Migration.levels_of_migrateSpelt PairTable.keepsValues_written
    (currentSave_eq_ok (saveOf_eq_ok h).1).1

/-- Of a player who is read from what was written, the variables may be spelt otherwise, and no
more than that. -/
theorem playerOf_written (h : saveOf v = .ok save) :
    playerOf save.written = { save.player with vars := (playerOf save.written).vars } ∧
      (playerOf save.written = save.player ↔ SpeltAlike v) := by
  obtain ⟨hwritten, shown, hshown, hplayer⟩ := saveOf_eq_ok h
  rw [← hplayer]
  cases hstate : (v.memberOrNull "state").isObject with
  | true =>
      rw [playerOf_of_state hstate hwritten, playerOf_of_state hstate hshown]
      refine ⟨rfl, iff_of_true rfl fun t ht => ?_⟩
      simp [flatVariables?, hstate] at ht
  | false =>
      obtain ⟨sheet, hsheet, hread⟩ := playerOf_of_flat hstate hwritten
      obtain ⟨other, hother, hseen⟩ := playerOf_of_flat hstate hshown
      obtain ⟨-, t, -, -, ht, -⟩ := Migration.flatSheet_eq_ok hsheet
      have hflat : flatVariables? v = some t := by
        simp [flatVariables?, hstate, ht, Except.toOption]
      have hspelt := Migration.ofJson_flatSheet ht hsheet hother
      have hvars := congrArg Player.vars (Migration.ofJson_flatSheet ht hother hother)
      rw [hread, hseen, hspelt]
      refine ⟨rfl, ?_⟩
      rw [Player.ext_iff]
      simp [SpeltAlike, hflat, hvars]

/-! ## Falling back -/

/-- The save that is to be loaded is no good, but the backup is one. -/
structure FallsBack (s : SaveStore) (files : FileTree) (slot : String) (save : Save) : Prop where
  target : ∃ path why, s.target? files slot false = some path ∧
    readSave files path = .error why ∧ why.isBadSave = true
  backup : readSave files (s.backup slot) = .ok save

theorem exists_saveOf_of_readSave {path : FilePath} (h : readSave files path = .ok save) :
    ∃ v, files.readValue path = .ok v ∧ saveOf v = .ok save := by
  unfold readSave at h
  split at h
  case h_6 v hvalue => exact ⟨v, hvalue, h⟩
  all_goals cases h

theorem slotOf_of_slotIn (h : s.slotIn files name = .ok slot) : slotOf name = .ok slot := by
  obtain ⟨found, hfound, h⟩ := bind_eq_ok_iff.mp h
  split at h
  · cases h
  · rw [hfound, Except.ok.inj h]

/-- A plan to load a slot changes nothing, or it is to put the backup in place. -/
theorem load_cases (s : SaveStore) (files : FileTree) (name : String) :
    (s.load files name false).actions = [] ∨
      ∃ slot save, slotOf name = .ok slot ∧ s.FallsBack files slot save ∧
        (s.load files name false).actions = s.writeActions slot save.written [] ∧
        (s.load files name false).answer = .ok (some save.player) := by
  cases hslot : s.slotIn files name with
  | error f => exact .inl (by rw [load, hslot]; rfl)
  | ok slot =>
      cases htarget : s.target? files slot false with
      | none => exact .inl (by simp only [load, hslot, withSlot, htarget])
      | some path =>
          have hload : s.load files name false = s.loadFrom files slot path := by
            simp only [load, hslot, withSlot, htarget]
          cases hread : readSave files path with
          | ok save => exact .inl (by simp only [hload, loadFrom, hread])
          | error why =>
              simp only [hload, loadFrom, hread]
              split
              · exact .inl rfl
              · next hbad =>
                  split
                  · exact .inl rfl
                  · cases hbackup : readSave files (s.backup slot) with
                    | error worse =>
                        simp only [restore, hbackup]
                        split <;> exact .inl rfl
                    | ok save =>
                        simp only [restore, hbackup]
                        refine .inr ⟨slot, save, slotOf_of_slotIn hslot, ⟨?_, hbackup⟩, rfl, rfl⟩
                        exact ⟨path, why, htarget, hread, by simpa using hbad⟩

theorem readSave_of_restored {u : FileTree} (h : s.Restored files slot save u) :
    readSave u (s.primary slot) = saveOf save.written := by
  rw [readSave, FileTree.readValue, FileTree.read_eq_ok h.primary]
  rfl

/-- Loading that comes to an end changes nothing, or it has put the backup in place.  Loading again
then changes nothing more.  It ends as before where nothing was changed; otherwise it finds the
player as he was written, who is the one before but for variables that are shown otherwise.  What
was written may be two levels deeper than the backup, and if it is too deep to be copied then,
loading again stops. -/
theorem load_again (s : SaveStore) (files : FileTree) (name : String) {found : Option Player}
    (h : ((s.load files name false).perform files).answer = .ok found) :
    let first := (s.load files name false).perform files
    let second := (s.load first.files name false).perform first.files
    (first.files = files ∧ second = first) ∨
      ∃ slot save v, slotOf name = .ok slot ∧ s.FallsBack files slot save ∧
        s.Restored files slot save first.files ∧ found = some save.player ∧
        second = ⟨first.files, [],
          if save.written.isCopyable then .ok (some (playerOf save.written))
          else .error (.migration (.fault .tooDeep))⟩ ∧
        files.readValue (s.backup slot) = .ok v ∧ save.written.levels ≤ v.levels + 2 ∧
        playerOf save.written = { save.player with vars := (playerOf save.written).vars } ∧
        (playerOf save.written = save.player ↔ SpeltAlike v) := by
  intro first second
  obtain ⟨hactions, hanswer⟩ := performAll_of_answer h
  rcases load_cases s files name with hnone | ⟨slot, save, hslot, hfalls, hplan, hsome⟩
  · rw [hnone] at hactions
    have hsame : first.files = files := (Prod.mk.inj hactions).1.symm
    exact .inl ⟨hsame, by simp only [second, hsame, first]⟩
  · rw [hplan] at hactions
    have hrestored : s.Restored files slot save first.files := by
      obtain ⟨hprimary, hothers⟩ := FileTree.replaced_of_performAll hactions
      exact ⟨hprimary, hothers⟩
    obtain ⟨v, hvalue, hsave⟩ := exists_saveOf_of_readSave hfalls.backup
    have hfound : found = some save.player := Except.ok.inj (hanswer.symm.trans hsome)
    have hread := (readSave_of_restored hrestored).trans (saveOf_written hsave)
    have hsecond : second = ⟨first.files, [],
        if save.written.isCopyable then .ok (some (playerOf save.written))
        else .error (.migration (.fault .tooDeep))⟩ := by
      cases hshallow : save.written.isCopyable with
      | true =>
          rw [hshallow] at hread
          exact load_of_readSave hslot hread
      | false =>
          rw [hshallow] at hread
          exact load_of_stopped hslot (FileTree.read_eq_ok hrestored.primary) hread rfl
    exact .inr ⟨slot, save, v, hslot, hfalls, hrestored, hfound, hsecond, hvalue,
      levels_written_le hsave, playerOf_written hsave⟩

/-- A flat backup whose variables have texts for names is found again. -/
theorem load_again_for_hero :
    let backup : Json := .obj [("character", .obj [("xp", .int 3)]),
      ("questVars", .arr [.arr [.str "true", .str "x"]])]
    let files := heroFiles [(primaryName, .text "broken"), (backupName, .document backup)]
    let first := (savesStore.load files "Hero!" false).perform files
    let p : Player := { vars := [("true", "x")], xp := 3 }
    first.answer = .ok (some p) ∧ SpeltAlike backup ∧
      (first.files.readValue (savesStore.primary "hero")).isOk = true ∧
      (savesStore.load first.files "Hero!" false).perform first.files =
        ⟨first.files, [], .ok (some p)⟩ := by
  intro backup files first p
  have hanswer : first.answer = .ok (some p) := by decide +kernel
  have hslot : slotOf "Hero!" = .ok "hero" := by decide +kernel
  have hbackup : files.readValue (savesStore.backup "hero") = .ok backup := rfl
  have hbroken : (files.readValue (savesStore.primary "hero")).isOk = false := by decide +kernel
  have hmended : (first.files.readValue (savesStore.primary "hero")).isOk = true := by
    decide +kernel
  have halike : SpeltAlike backup := by
    intro t ht
    have hvars : flatVariables? backup = some [(.str "true", .str "x")] := by decide +kernel
    obtain rfl := Option.some.inj (hvars.symm.trans ht)
    exact PairTable.variablesIn_written_eq_described (by decide) (by decide)
  refine ⟨hanswer, halike, hmended, ?_⟩
  obtain ⟨hsame, -⟩ | ⟨slot, save, v, hname, -, -, hfound, hsecond, hvalue, hlevels, -, hiff⟩ :=
    load_again savesStore files "Hero!" hanswer
  · rw [hsame, hbroken] at hmended
    contradiction
  · obtain rfl := Except.ok.inj (hslot.symm.trans hname)
    obtain rfl := Except.ok.inj (hbackup.symm.trans hvalue)
    have hp := Option.some.inj hfound
    have hshallow : save.written.isCopyable = true := by
      have hbackupLevels : backup.levels = 3 := by decide +kernel
      rw [Json.isCopyable, decide_eq_true_eq, Json.copyLimit]
      omega
    rw [hsecond, hshallow, if_pos rfl, hiff.mpr halike, hp]

/-- A name that is true or false is written otherwise than it is shown. -/
theorem load_again_can_differ :
    let files := heroFiles [(primaryName, .text "broken"),
      (backupName, .document (.obj [("character", .obj []),
        ("questVars", .arr [.arr [.bool true, .str "x"]])]))]
    let first := (savesStore.load files "hero" false).perform files
    (first.answer.map fun found => found.map (·.vars)) = .ok (some [("True", "x")]) ∧
      (((savesStore.load first.files "hero" false).perform first.files).answer.map fun found =>
        found.map (·.vars)) = .ok (some [("true", "x")]) := by
  decide +kernel

end SaveStore

end Questline
