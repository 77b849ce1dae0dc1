import Questline.Proofs.Json.PairTable
import Questline.Proofs.Save.Listing
import Questline.Proofs.Save.Reloading

/-!
# Saves of the first schema

A flat save keeps what a normal player is.  Alone in its slot it is found, it
is loaded as the player who was written and listed under his name, and saving
him once more keeps all of him but the oldest lines of his log.
-/

namespace Questline

namespace Json

variable {v w : Json} {key : String}

theorem isObject_of_member? (h : v.member? key = some w) : v.isObject = true := by
  cases v <;> first | rfl | cases h

end Json

namespace Player

/-- The player stands in a save of the first schema, which knows neither of schemas nor of slots.
In what order its members stand does not matter, nor what else there is in it, as long as it can be
copied. -/
structure IsFlatIn (p : Player) (save : Json) : Prop where
  tags : (save.memberOrNull "character").memberOrNull "metadata" = .arr (p.tags.map .str)
  stats : ∀ stat : Stat,
    (save.memberOrNull "character").member? stat.name = some (.int (p.stats.get stat))
  xp : (save.memberOrNull "character").member? "xp" = some (.int p.xp)
  stepsCompleted :
    (save.memberOrNull "character").member? "stepsCompleted" = some (.int p.stepsCompleted)
  vars : save.memberOrNull "questVars" = variablesJson p.vars
  log : save.memberOrNull "questLog" = .arr (p.log.map .str)
  currentStepId : save.memberOrNull "currentStepId" = optionalText p.currentStepId
  unmarked : ∀ name ∈ ["version", "state", "metadata", "save_slot", "saved_at"],
    save.memberOrNull name = .null
  shallow : save.isCopyable = true

def toFlat (p : Player) : Json :=
  .obj
    [("character", .obj (("metadata", .arr (p.tags.map .str)) :: p.stats.toTable ++
        [("xp", .int p.xp), ("stepsCompleted", .int p.stepsCompleted)])),
      ("questVars", variablesJson p.vars),
      ("questLog", .arr (p.log.map .str)),
      ("currentStepId", optionalText p.currentStepId)]

theorem isCopyable_toFlat (p : Player) : p.toFlat.isCopyable = true := by
  have hlevels : p.toFlat.levels = 3 := by
    simp only [toFlat, variablesJson, List.cons_append, Json.levels, Json.levelsOfMembers,
      Json.levelsOfMembers_append, Json.levelsOfList_texts, Json.levelsOfMembers_texts,
      SaveStore.levels_optionalText, SaveStore.levelsOfMembers_toTable]
    omega
  rw [Json.isCopyable, hlevels]
  decide

theorem isFlatIn_toFlat (p : Player) : p.IsFlatIn p.toFlat where
  tags := rfl
  stats := by intro stat; cases stat <;> rfl
  xp := rfl
  stepsCompleted := rfl
  vars := rfl
  log := rfl
  currentStepId := rfl
  unmarked := by simp [toFlat, Json.memberOrNull, Json.member?, Json.asObject?, Table.get?]
  shallow := p.isCopyable_toFlat

/-- A player whom a flat save can hold: nothing but stats in his stat block, no experience below
zero, and no variable twice. -/
structure IsFlat (p : Player) : Prop where
  otherStats : p.otherStats = []
  xp : 0 ≤ p.xp
  vars : p.vars.keys.Nodup

/-- The save of the current schema that a flat one of the player becomes. -/
def migrated (p : Player) : Json :=
  .obj
    [("version", .int 1),
      ("metadata", .obj
        [("schema", .str "save_v1"), ("version", .int 1), ("save_slot", .null),
          ("saved_at", .null), ("player_name", optionalText (Table.get? characterName p.vars)),
          ("current_step_id", optionalText p.currentStepId)]),
      ("state", .obj [("player", p.toJson)])]

end Player

namespace Migration

open Player (variablesJson optionalText IsFlatIn)

variable {p : Player} {save : Json} {spell : Spelling}

theorem givenOr_eq {key : String} {standIn w : Json} (h : save.memberOrNull key = w)
    (hempty : w.isGiven = false → w = standIn) : givenOr save key standIn = w := by
  rw [givenOr, h, Json.given?]
  cases hgiven : w.isGiven with
  | true => rfl
  | false => exact (hempty hgiven).symm

theorem givenOr_texts {key : String} {xs : List String}
    (h : save.memberOrNull key = .arr (xs.map .str)) :
    givenOr save key (.arr []) = .arr (xs.map .str) := by
  refine givenOr_eq h fun hempty => ?_
  cases xs with
  | nil => rfl
  | cons x xs => cases hempty

theorem givenOr_variables {key : String} {vars : Table String}
    (h : save.memberOrNull key = variablesJson vars) :
    givenOr save key (.obj []) = variablesJson vars := by
  refine givenOr_eq h fun hempty => ?_
  cases vars with
  | nil => rfl
  | cons m vars => cases hempty

theorem flatSheet_of_isFlatIn (h : p.IsFlatIn save) (hothers : p.otherStats = [])
    (hspell : spell (PairTable.ofTable (p.vars.mapValues .str)) = p.vars.mapValues .str) :
    flatSheet spell save = .ok p.toJson := by
  have hcharacter := Json.isObject_of_member? h.xp
  have hstats : flatStats (save.memberOrNull "character") = p.statsJson := by
    rw [flatStats, Player.statsJson, hothers, List.nil_append, Stats.toTable]
    exact List.map_congr_left fun stat _ => by rw [h.stats]; rfl
  simp only [flatSheet, hcharacter, givenOr_texts h.tags, givenOr_variables h.vars,
    givenOr_texts h.log, hstats, h.xp, h.stepsCompleted, h.currentStepId]
  simp only [Bool.not_true, Bool.false_eq_true, if_false, Option.getD_some, variablesJson,
    Json.itemsOf, Json.items?, PairTable.ofJson, lift, bind, Except.bind, hspell, Player.toJson,
    pure, Except.pure]

theorem metadataOf_of_isFlatIn (h : p.IsFlatIn save) :
    metadataOf save (.obj [("player", p.toJson)]) = .obj
      [("schema", .str "save_v1"), ("version", .int 1), ("save_slot", .null), ("saved_at", .null),
        ("player_name", optionalText (Table.get? Player.characterName p.vars)),
        ("current_step_id", optionalText p.currentStepId)] := by
  have hname : (variablesJson p.vars).memberOrNull Player.characterName =
      optionalText (Table.get? Player.characterName p.vars) := by
    have hget : (variablesJson p.vars).member? Player.characterName =
        (Table.get? Player.characterName p.vars).map .str := Table.get?_mapValues _ _ _
    rw [Json.memberOrNull, hget]
    cases Table.get? Player.characterName p.vars <;> rfl
  rw [← hname]
  simp only [metadataOf, h.unmarked "metadata" (by simp), h.unmarked "save_slot" (by simp),
    h.unmarked "saved_at" (by simp)]
  rfl

theorem isOfSchema_of_isFlatIn (h : p.IsFlatIn save) : IsOfSchema 0 save where
  object := isObject_of_memberOrNull (Json.isObject_of_member? h.xp)
  number := by rw [versionOf, h.unmarked "version" (by simp)]; rfl

theorem migrateSpelt_of_isFlatIn (h : p.IsFlatIn save) (hothers : p.otherStats = [])
    (hspell : spell (PairTable.ofTable (p.vars.mapValues .str)) = p.vars.mapValues .str) :
    migrateSpelt spell save SaveStore.schema = .ok p.migrated := by
  have hfirst := isOfSchema_of_isFlatIn h
  have hstate : stateOf spell save = .ok (.obj [("player", p.toJson)]) := by
    rw [stateOf, h.unmarked "state" (by simp), flatSheet_of_isFlatIn h hothers hspell]
    rfl
  have hstep : toSecondSchema spell save = .ok p.migrated := by
    rw [toSecondSchema, hstate, Player.migrated, ← metadataOf_of_isFlatIn h]
    rfl
  rw [migrateSpelt_of_first spell hfirst, if_pos h.shallow, hstep]

end Migration

namespace SaveStore

variable {s : SaveStore} {files : FileTree} {name slot : String} {p : Player} {v : Json}

theorem saveOf_of_isFlatIn (h : p.IsFlatIn v) (hp : p.IsFlat) :
    saveOf v = .ok ⟨p.migrated, .ofJson p.toJson⟩ := by
  have hkeys : (p.vars.mapValues Json.str).keys.Nodup := by
    rw [Table.keys_mapValues]
    exact hp.vars
  have hgiven : ∀ m ∈ p.vars.mapValues Json.str, m.2.isNull = false := by
    intro m hm
    obtain ⟨n, -, rfl⟩ := List.mem_map.mp hm
    rfl
  have hcheck : checkSave p.migrated = .ok p.migrated := rfl
  -- the names are texts, so that both spellings leave the variables as they are
  have hcurrent : ∀ spell : Spelling,
      spell (PairTable.ofTable (p.vars.mapValues .str)) = p.vars.mapValues .str →
        currentSave spell v = .ok p.migrated := by
    intro spell hspell
    rw [currentSave, Migration.migrateSpelt_of_isFlatIn h hp.otherStats hspell]
    exact hcheck
  simp only [saveOf, hcurrent _ (PairTable.written_ofTable hkeys),
    hcurrent _ (PairTable.described_ofTable hkeys hgiven)]
  rfl

/-- The slot has a folder with a save of an earlier schema and no current one, and there is room
for that. -/
structure HoldsOnlyLegacy (s : SaveStore) (files : FileTree) (slot : String) (v : Json) :
    Prop where
  base : files.isFolder s.base = true
  folder : files.isFolder (s.folder slot) = true
  legacy : files.readValue (s.legacy slot) = .ok v
  primary : files.isThere (s.primary slot) = false
  temporary : files.isFolder (s.temporary slot) = false
  room : (s.temporary slot).text.utf8ByteSize ≤ FilePath.textLimit

namespace HoldsOnlyLegacy

variable (h : s.HoldsOnlyLegacy files slot v)
include h

theorem writable : s.Writable files slot where
  room := h.room
  temporary := h.temporary
  primary := isFolder_of_not_isThere h.primary

theorem exists_read : ∃ content, files.read (s.legacy slot) = .ok content := by
  have hvalue := h.legacy
  rw [FileTree.readValue] at hvalue
  cases hread : files.read (s.legacy slot) with
  | ok content => exact ⟨content, rfl⟩
  | error f => simp [hread] at hvalue

theorem slotIn_eq (hname : slotName? name = some slot) : s.slotIn files name = .ok slot := by
  obtain ⟨content, hread⟩ := h.exists_read
  exact slotIn_of_read hname h.writable hread

theorem has_eq (hname : slotName? name = some slot) : s.has files name = .ok true := by
  obtain ⟨content, hread⟩ := h.exists_read
  simp [has, h.slotIn_eq hname, isThere_of_read hread, bind, Except.bind, pure, Except.pure]

theorem load_eq (hname : slotName? name = some slot) {save : Save} (hsave : saveOf v = .ok save) :
    (s.load files name false).perform files = ⟨files, [], .ok (some save.player)⟩ := by
  obtain ⟨content, hread⟩ := h.exists_read
  have hlegacy : readSave files (s.legacy slot) = .ok save := by
    rw [readSave, h.legacy]
    exact hsave
  have htarget : s.target? files slot false = some (s.legacy slot) := by
    simp [target?, h.primary, isThere_of_read hread]
  exact load_of_target (h.slotIn_eq hname) htarget hlegacy

theorem answer_save (hname : slotName? name = some slot) (q : Player) (label : String)
    (quiet : Bool) :
    ((s.save files name q label quiet).perform files).answer = .ok (s.primary slot) := by
  obtain ⟨content, hread⟩ := h.exists_read
  obtain ⟨htemporary, hprimary⟩ := takes_of_writable h.writable (obstacle?_of_read hread)
  obtain ⟨u, hreplace⟩ :=
    FileTree.exists_performAll_replace htemporary hprimary (.document (s.savePayload slot q))
  -- the folder is there, and there is no old save to be copied
  have hmake : files.perform (.makeFolders (s.folder slot)) = .ok files :=
    (FileTree.makeFolders_child_of_isFolder h.base slot).trans
      (FileTree.ensureFolder_eq_self h.folder)
  have hactions : files.performAll (s.save files name q label quiet).actions = (u, none) := by
    simp only [save, slotOf_eq_ok_iff.mpr hname, withSlot, backupActions, h.primary, writeActions,
      FileTree.performAll, hmake]
    exact hreplace
  rw [SavePlan.perform, hactions]
  simp only [save, slotOf_eq_ok_iff.mpr hname, withSlot]

theorem listed?_eq : s.listed? files slot = some (s.legacy slot) := by
  obtain ⟨content, hread⟩ := h.exists_read
  simp [listed?, h.primary, isThere_of_read hread]

theorem lists {includeAutosave : Bool} (hname : slotName? name = some slot)
    (hslot : includeAutosave = true ∨ slot ≠ autosaveSlot) :
    s.Lists files includeAutosave slot where
  ne_up := ne_up_of_slotName? hname
  folder := h.folder
  wanted := hslot
  there := listed?_isSome.mp (by rw [h.listed?_eq]; rfl)

end HoldsOnlyLegacy

def describedFlat (slot : String) (p : Player) : SlotMetadata where
  slot := slot
  playerName := Player.optionalText (Table.get? Player.characterName p.vars)
  currentStepId := Player.optionalText p.currentStepId

theorem readMetadata_of_isFlatIn (h : s.HoldsOnlyLegacy files slot v) (hflat : p.IsFlatIn v)
    (hp : p.IsFlat) : readMetadata files slot (s.legacy slot) = .ok (describedFlat slot p) := by
  have hread : readSave files (s.legacy slot) = .ok ⟨p.migrated, .ofJson p.toJson⟩ := by
    rw [readSave, h.legacy]
    exact saveOf_of_isFlatIn hflat hp
  rw [readMetadata, hread]
  rfl

/-- A player whom a flat save can hold, in the only save of a slot: the slot is found, and the
player is loaded as he was written.  Saved once more, he is loaded with a log that goes no further
back than the rules allow.  A listing shows his name and his step, and there is a listing unless
another slot spoils it. -/
theorem flat_save_is_kept (s : SaveStore) {files : FileTree} (hsound : files.Sound)
    (hname : slotName? name = some slot) (hslot : slot ≠ autosaveSlot)
    (h : s.HoldsOnlyLegacy files slot v) (hflat : p.IsFlatIn v) (hp : p.IsFlat) :
    s.has files name = .ok true ∧
    (∃ q, (s.load files name false).perform files = ⟨files, [], .ok (some q)⟩ ∧
      q.toJson = p.toJson ∧
      ∀ label quiet, let saved := (s.save files name q label quiet).perform files
        saved.answer = .ok (s.primary slot) ∧
        ∃ r, (s.load saved.files name false).perform saved.files =
            ⟨saved.files, [], .ok (some r)⟩ ∧
          r.toJson = ({ p with log := capped s.config.maxLogEntries p.log } : Player).toJson) ∧
    ∀ includeAutosave,
      (∀ entries, s.list files includeAutosave = .ok entries →
        describedFlat slot p ∈ entries ∧ ∀ e ∈ entries, e.slot = slot → e = describedFlat slot p) ∧
      ((∀ other, other ≠ slot → s.Lists files includeAutosave other → ¬ s.Spoils files other) →
        ∃ entries, s.list files includeAutosave = .ok entries) := by
  have hmetadata := readMetadata_of_isFlatIn h hflat hp
  refine ⟨h.has_eq hname, ⟨_, h.load_eq hname (saveOf_of_isFlatIn hflat hp),
    Player.toJson_ofJson_toJson hp.xp, fun label quiet => ?_⟩, fun includeAutosave => ⟨?_, ?_⟩⟩
  · have hanswer := h.answer_save hname (Player.ofJson p.toJson) label quiet
    have hstats : (Player.ofJson p.toJson).otherStats = [] := by
      rw [Player.ofJson_toJson]
      exact hp.otherStats
    have hload := load_of_save hanswer
    rw [reloaded_of_numbers (by simp [hstats])] at hload
    refine ⟨hanswer, _, hload, ?_⟩
    rw [Player.ofJson_toJson]
    simp [savedPlayer, Player.toJson, Player.repaired, Player.statsJson, Int.max_eq_left hp.xp]
  · intro entries hentries
    exact entry_of_list hsound h.base (h.lists hname (.inr hslot)) h.listed?_eq hmetadata hentries
  · intro hothers
    refine exists_list_of_not_spoils hsound h.base fun other hlists hspoils => ?_
    by_cases hother : other = slot
    · subst hother
      obtain ⟨f, hf⟩ := exists_readMetadata_eq_error h.listed?_eq hspoils
      rw [hmetadata] at hf
      contradiction
    · exact hothers other hother hlists hspoils

theorem flat_save_is_kept_for_ash :
    let ash : Player := {
      tags := ["inv:rope", "trait:brave"]
      vars := [(Player.characterName, "Ash"), ("market.name", "Old Town")]
      log := ["Took rope"], stats := ⟨4, 1, 2⟩, xp := 3, currentStepId := some "Market" }
    let files := slotFiles [("old", legacyName, .document ash.toFlat)]
    files.Sound ∧ slotName? "Old!" = some "old" ∧ "old" ≠ autosaveSlot ∧
      savesStore.HoldsOnlyLegacy files "old" ash.toFlat ∧ ash.IsFlatIn ash.toFlat ∧ ash.IsFlat ∧
      savesStore.has files "Old!" = .ok true ∧
      ∃ q, (savesStore.load files "Old!" false).perform files = ⟨files, [], .ok (some q)⟩ ∧
        q.toJson = ash.toJson := by
  intro ash files
  have hsound : files.Sound := sound_slotFiles _
  have hname : slotName? "Old!" = some "old" := by decide +kernel
  have hslot : "old" ≠ autosaveSlot := by decide
  have h : savesStore.HoldsOnlyLegacy files "old" ash.toFlat := by
    constructor <;> decide +kernel
  have hflat : ash.IsFlatIn ash.toFlat := ash.isFlatIn_toFlat
  have hp : ash.IsFlat := by constructor <;> decide
  obtain ⟨hhas, ⟨q, hload, hsheet, -⟩, -⟩ :=
    flat_save_is_kept savesStore hsound hname hslot h hflat hp
  exact ⟨hsound, hname, hslot, h, hflat, hp, hhas, q, hload, hsheet⟩

end SaveStore

end Questline
