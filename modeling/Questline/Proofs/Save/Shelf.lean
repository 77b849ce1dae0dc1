import Questline.Proofs.Json.Levels
import Questline.Save.Store

/-!
# Shelves

A shelf says what save slots are meant to be: for each slot it knows the player
saved last and the one saved before, and nothing of folders and files.  A player
comes back from it as he was put there, unless there is more in his stat block
than numbers, nested so deep that his save cannot be copied.
-/

namespace Questline

/-- What can be asked of the save slots. -/
inductive SlotAction where
  | save (name : String) (p : Player) (label : String) (quiet : Bool)
  | autosave (p : Player)
  | load (name : String) (preferBackup : Bool)
  | has (name : String)
  | delete (name : String)
  | list (includeAutosave : Bool)

inductive SlotAnswer where
  | saved (path : Option FilePath)
  | loaded (sheet : Option Json)
  | told (answer : Bool)
  | listed (slots : List SlotMetadata)
deriving DecidableEq

namespace SlotAction

/-- The name that an action gives to the slot it is about. -/
def name? : SlotAction → Option String
  | save name _ _ _ => some name
  | autosave _ => some SaveStore.autosaveSlot
  | load name _ => some name
  | has name => some name
  | delete name => some name
  | list _ => none

/-- The slot that an action is about. -/
def slot? (a : SlotAction) : Option String := a.name?.bind SaveStore.slotName?

end SlotAction

/-- The stat block of the player, three levels down in a save, is not too deep to be copied. -/
def Player.isRestorable (p : Player) : Bool :=
  (Json.obj p.otherStats).levels + 3 ≤ Json.copyLimit

/-- What a slot holds. -/
structure Kept where
  last : Player
  previous : Option Player := none

/-- The player that is loaded. -/
def Kept.pick (k : Kept) (preferBackup : Bool) : Player :=
  if preferBackup then k.previous.getD k.last else k.last

abbrev Shelf := Table Kept

/-- A player goes on top of what the slot holds, and only the topmost two remain. -/
def Shelf.put (shelf : Shelf) (slot : String) (p : Player) : Shelf :=
  Table.set slot ⟨p, (Table.get? slot shelf).map (·.last)⟩ shelf

namespace SaveStore

/-- The slot of a name that is not too long for a folder. -/
def shelfSlot (path : String → FilePath) (name : String) : Except SaveFault String :=
  match slotOf name with
  | .error f => .error f
  | .ok slot =>
    if FilePath.nameLimit < slot.utf8ByteSize then .error (.file ⟨.nameTooLong, path slot⟩)
    else .ok slot

/-- What comes back of a player from a save of his: all but a pending level-up and the lines for
which the rules leave no room in the log. -/
def reloaded (config : Config) (p : Player) : Except SaveFault Player :=
  if p.isRestorable then .ok { savedPlayer config p with leveledUp := false }
  else .error (.migration (.fault .tooDeep))

/-- How a slot is listed whose last save is of the player. -/
def described (s : SaveStore) (slot : String) (p : Player) : SlotMetadata where
  slot := slot
  savedAt := .str s.clock
  playerName := Player.optionalText (Table.get? Player.characterName p.vars)
  currentStepId := Player.optionalText p.currentStepId

def shelfSave (s : SaveStore) (shelf : Shelf) (name : String) (p : Player) :
    Shelf × Except SaveFault SlotAnswer :=
  match shelfSlot s.folder name with
  | .error f => (shelf, .error f)
  | .ok slot => (shelf.put slot p, .ok (.saved (some (s.primary slot))))

def shelfLoad (s : SaveStore) (shelf : Shelf) (slot : String) (preferBackup : Bool) :
    Except SaveFault (Option Json) :=
  match Table.get? slot shelf with
  | none => .ok none
  | some kept => (reloaded s.config (kept.pick preferBackup)).map fun p => some p.toJson

def shelfList (s : SaveStore) (shelf : Shelf) (includeAutosave : Bool) :
    Except SaveFault (List SlotMetadata) :=
  let slots := (Text.sortTexts shelf.keys).filter fun slot =>
    includeAutosave || slot != autosaveSlot
  (slots.filterMap fun slot => (Table.get? slot shelf).map fun kept => (slot, kept.last)).mapM
    fun (slot, p) => (reloaded s.config p).map (s.described slot)

/-- What an action makes of a shelf, and its answer. -/
def shelfAct (s : SaveStore) (shelf : Shelf) : SlotAction → Shelf × Except SaveFault SlotAnswer
  | .save name p _ _ => s.shelfSave shelf name p
  | .autosave p =>
    if p.currentStepId.isNone && p.stepsCompleted = 0 then (shelf, .ok (.saved none))
    else s.shelfSave shelf autosaveSlot p
  | .load name preferBackup =>
    (shelf, do return .loaded (← s.shelfLoad shelf (← shelfSlot s.primary name) preferBackup))
  | .has name => (shelf, (shelfSlot s.primary name).map fun slot => .told (shelf.contains slot))
  | .delete name =>
    match shelfSlot s.primary name with
    | .error f => (shelf, .error f)
    | .ok slot => (shelf.erase slot, .ok (.told (shelf.contains slot)))
  | .list includeAutosave => (shelf, (s.shelfList shelf includeAutosave).map .listed)

def shelfAfter (s : SaveStore) (shelf : Shelf) : List SlotAction → Shelf
  | [] => shelf
  | a :: as => s.shelfAfter (s.shelfAct shelf a).1 as

def shelfAnswers (s : SaveStore) (shelf : Shelf) :
    List SlotAction → List (Except SaveFault SlotAnswer)
  | [] => []
  | a :: as => (s.shelfAct shelf a).2 :: s.shelfAnswers (s.shelfAct shelf a).1 as

/-- What an action makes of the files, and its answer. -/
def act (s : SaveStore) (files : FileTree) : SlotAction → Saved SlotAnswer
  | .save name p label quiet =>
    ((s.save files name p label quiet).map fun path => .saved (some path)).perform files
  | .autosave p => ((s.autosave files p).map .saved).perform files
  | .load name preferBackup =>
    ((s.load files name preferBackup).map fun p => .loaded (p.map Player.toJson)).perform files
  | .has name => ⟨files, [], (s.has files name).map .told⟩
  | .delete name => ((s.delete files name).map .told).perform files
  | .list includeAutosave => ⟨files, [], (s.list files includeAutosave).map .listed⟩

/-- The files after a list of actions. -/
def after (s : SaveStore) (files : FileTree) : List SlotAction → FileTree
  | [] => files
  | a :: as => s.after (s.act files a).files as

/-- The answers to a list of actions. -/
def answers (s : SaveStore) (files : FileTree) :
    List SlotAction → List (Except SaveFault SlotAnswer)
  | [] => []
  | a :: as => (s.act files a).answer :: s.answers (s.act files a).files as

end SaveStore

/-! ## Slots apart -/

namespace SaveStore

variable {s : SaveStore} {shelf other : Shelf} {a : SlotAction} {slot : String}

/-- A player whose stats are numbers comes back. -/
theorem reloaded_of_numbers {config : Config} {p : Player}
    (h : ∀ m ∈ p.otherStats, ∃ n, m.2 = .int n) :
    reloaded config p = .ok { savedPlayer config p with leveledUp := false } := by
  have hlevels : (Json.obj p.otherStats).levels ≤ 0 + 1 := by
    rw [Json.levels_obj_le_iff]
    intro m hm
    obtain ⟨n, hn⟩ := h m hm
    rw [hn]
    exact Nat.le_refl 0
  have hrestorable : p.isRestorable = true := by
    rw [Player.isRestorable, decide_eq_true_eq, Json.copyLimit]
    omega
  rw [reloaded, if_pos hrestorable]

theorem isBadSave_of_reloaded {config : Config} {p : Player} {f : SaveFault}
    (h : reloaded config p = .error f) : f.isBadSave = false := by
  unfold reloaded at h
  split at h
  · cases h
  · obtain rfl := Except.error.inj h
    rfl

theorem slotOf_eq_ok_iff {name : String} : slotOf name = .ok slot ↔ slotName? name = some slot := by
  unfold slotOf
  cases slotName? name <;> simp

theorem slotName?_autosaveSlot : slotName? autosaveSlot = some autosaveSlot := by decide +kernel

theorem slot?_of_name?_eq_some {name : String} (h : a.name? = some name) :
    a.slot? = slotName? name := by
  rw [SlotAction.slot?, h, Option.bind_some]

theorem slot?_autosave (p : Player) : (SlotAction.autosave p).slot? = some autosaveSlot := by
  rw [slot?_of_name?_eq_some rfl, slotName?_autosaveSlot]

theorem slotName?_of_shelfSlot {path : String → FilePath} {name : String}
    (h : shelfSlot path name = .ok slot) : slotName? name = some slot := by
  rw [← slotOf_eq_ok_iff]
  cases hslot : slotOf name with
  | error f => simp [shelfSlot, hslot] at h
  | ok found =>
      simp only [shelfSlot, hslot] at h
      split at h
      · cases h
      · exact h

theorem get?_shelfSave_of_ne (s : SaveStore) {name : String} (h : slotName? name ≠ some slot)
    (p : Player) :
    Table.get? slot (s.shelfSave shelf name p).1 = Table.get? slot shelf := by
  cases hslot : shelfSlot s.folder name with
  | error f => simp only [shelfSave, hslot]
  | ok found =>
      have hne : slot ≠ found := by
        rintro rfl
        exact h (slotName?_of_shelfSlot hslot)
      simp only [shelfSave, hslot]
      exact Table.get?_set_of_ne hne _ shelf

/-- An action about another slot, or about none, leaves a slot alone. -/
theorem get?_shelfAct_of_ne (h : a.slot? ≠ some slot) :
    Table.get? slot (s.shelfAct shelf a).1 = Table.get? slot shelf := by
  cases a with
  | save name p label quiet =>
      rw [slot?_of_name?_eq_some rfl] at h
      rw [shelfAct]
      exact s.get?_shelfSave_of_ne h p
  | autosave p =>
      have hname : slotName? autosaveSlot ≠ some slot := by
        rwa [slotName?_autosaveSlot, ← slot?_autosave p]
      rw [shelfAct]
      split
      · rfl
      · exact s.get?_shelfSave_of_ne hname p
  | load => rfl
  | has => rfl
  | delete name =>
      rw [slot?_of_name?_eq_some rfl] at h
      cases hslot : shelfSlot s.primary name with
      | error f => simp only [shelfAct, hslot]
      | ok found =>
          have hne : slot ≠ found := by
            rintro rfl
            exact h (slotName?_of_shelfSlot hslot)
          simp only [shelfAct, hslot]
          exact Table.get?_erase_of_ne hne shelf
  | list => rfl

theorem shelfSave_congr (s : SaveStore) {name : String} (h : slotName? name = some slot)
    (hsame : Table.get? slot shelf = Table.get? slot other) (p : Player) :
    Table.get? slot (s.shelfSave shelf name p).1 = Table.get? slot (s.shelfSave other name p).1 ∧
      (s.shelfSave shelf name p).2 = (s.shelfSave other name p).2 := by
  cases hslot : shelfSlot s.folder name with
  | error f => simpa only [shelfSave, hslot, and_true] using hsame
  | ok found =>
      have hfound := slotName?_of_shelfSlot hslot
      rw [h] at hfound
      obtain rfl := Option.some.inj hfound
      simp [shelfSave, hslot, Shelf.put, hsame]

/-- Two shelves that hold the same in a slot hold the same there after an action about it, and
answer it alike. -/
theorem shelfAct_congr (h : a.slot? = some slot)
    (hsame : Table.get? slot shelf = Table.get? slot other) :
    Table.get? slot (s.shelfAct shelf a).1 = Table.get? slot (s.shelfAct other a).1 ∧
      (s.shelfAct shelf a).2 = (s.shelfAct other a).2 := by
  have hfound : ∀ {name found}, slotName? name = some slot →
      shelfSlot s.primary name = .ok found → found = slot := by
    intro name found hname hslot
    rw [slotName?_of_shelfSlot hslot] at hname
    exact Option.some.inj hname
  cases a with
  | save name p label quiet =>
      rw [slot?_of_name?_eq_some rfl] at h
      rw [shelfAct, shelfAct]
      exact s.shelfSave_congr h hsame p
  | autosave p =>
      have hname : slotName? autosaveSlot = some slot := by
        rwa [slotName?_autosaveSlot, ← slot?_autosave p]
      rw [shelfAct, shelfAct]
      split
      · exact ⟨hsame, rfl⟩
      · exact s.shelfSave_congr hname hsame p
  | load name preferBackup =>
      rw [slot?_of_name?_eq_some rfl] at h
      refine ⟨hsame, ?_⟩
      cases hslot : shelfSlot s.primary name with
      | error f => simp only [shelfAct, hslot, bind, Except.bind]
      | ok found =>
          obtain rfl := hfound h hslot
          simp only [shelfAct, hslot, bind, Except.bind, shelfLoad, hsame]
  | has name =>
      rw [slot?_of_name?_eq_some rfl] at h
      refine ⟨hsame, ?_⟩
      cases hslot : shelfSlot s.primary name with
      | error f => simp only [shelfAct, hslot, Except.map]
      | ok found =>
          obtain rfl := hfound h hslot
          simp only [shelfAct, hslot, Except.map, Table.contains, hsame]
  | delete name =>
      rw [slot?_of_name?_eq_some rfl] at h
      cases hslot : shelfSlot s.primary name with
      | error f => simpa only [shelfAct, hslot, and_true] using hsame
      | ok found =>
          obtain rfl := hfound h hslot
          simp only [shelfAct, hslot, Table.contains, hsame, Table.get?_erase_self, and_self]
  | list => contradiction

/-- What a slot holds comes from the actions about it alone. -/
theorem get?_shelfAfter_filter (s : SaveStore) (slot : String) (as : List SlotAction)
    (hsame : Table.get? slot shelf = Table.get? slot other) :
    Table.get? slot (s.shelfAfter shelf as) =
      Table.get? slot (s.shelfAfter other (as.filter fun a => a.slot? = some slot)) := by
  induction as generalizing shelf other with
  | nil => exact hsame
  | cons a as ih =>
      by_cases h : a.slot? = some slot
      · rw [List.filter_cons_of_pos (by simpa using h)]
        exact ih (shelfAct_congr h hsame).1
      · rw [List.filter_cons_of_neg (by simpa using h)]
        exact ih ((get?_shelfAct_of_ne h).trans hsame)

end SaveStore

end Questline
