import Questline.Files.Document
import Questline.Player
import Questline.Save.Migration
import Questline.Text.Case

/-!
# Save slots

A slot is a folder with the current save, the one before it as a backup, and
perhaps a save under the name of an earlier schema.  Every operation is a plan:
what it says before it touches a file, the changes to the files in their order,
and what it says and answers once they are made.  A new save replaces the old
one in a single step at the end, so that an interruption leaves the old one.
-/

namespace Questline

/-- Why a save operation fails. -/
inductive SaveFault where
  | badSlotName
  | malformed
  | stateMissing
  | playerMalformed
  | tagsMissing
  | migration (f : MigrationFault)
  | file (f : FileFault)
  | fault (f : Fault)
deriving DecidableEq

namespace SaveFault

def message? : SaveFault → Option String
  | badSlotName => some "Slot names must contain letters or numbers."
  | malformed => some ("Invalid JSON: " ++ DocumentFault.malformedMessage)
  | stateMissing => some "State block missing."
  | playerMalformed => some "Player block malformed."
  | tagsMissing => some "Missing key: state.player.tags"
  | migration f => f.message?
  | file _ => none
  | fault _ => none

/-- Whether the fault is one of a save that is no good; such a save can be replaced by its
backup. -/
def isBadSave : SaveFault → Bool
  | badSlotName => false
  | f => f.message?.isSome

end SaveFault

/-- A plan of changes to the files, with what is said on the way. -/
structure SavePlan (α : Type) where
  before : List String := []
  actions : List FileAction := []
  after : List String := []
  answer : Except SaveFault α

/-- What has become of a plan. -/
structure Saved (α : Type) where
  files : FileTree
  messages : List String
  answer : Except SaveFault α

namespace SavePlan

variable {α β : Type}

def fail (f : SaveFault) : SavePlan α := { answer := .error f }

def map (f : α → β) (p : SavePlan α) : SavePlan β := ⟨p.before, p.actions, p.after, p.answer.map f⟩

/-- Carries a plan out; a change that fails ends it. -/
def perform (p : SavePlan α) (files : FileTree) : Saved α :=
  match files.performAll p.actions with
  | (files, none) => ⟨files, p.before ++ p.after, p.answer⟩
  | (files, some f) => ⟨files, p.before, .error (.file f)⟩

end SavePlan

/-- A save that has been read. -/
structure Save where
  /-- The save in the current schema, as it is written. -/
  written : Json
  player : Player

structure SaveStore where
  base : FilePath
  config : Config := {}
  /-- The time that new saves are stamped with. -/
  clock : String

/-- What is known of a slot without loading it. -/
structure SlotMetadata where
  slot : String
  savedAt : Json := .null
  playerName : Json := .null
  currentStepId : Json := .null
deriving DecidableEq

namespace SaveStore

def schema : Int := 1

def primaryName : String := "save_v1.json"

def temporaryName : String := "save_v1.json.tmp"

def backupName : String := "save_v1.bak"

def legacyName : String := "save.json"

def autosaveSlot : String := "autosave"

def isSlotChar (c : Char) : Bool := c.isLower || c.isDigit || c == '-' || c == '_'

/-- What remains of a name: small letters, digits, hyphens and underscores. -/
@[irreducible]
def slotChars (name : String) : List Char :=
  (Text.lower (Text.trim name)).toList.filter isSlotChar

/-- The slot that a name stands for. -/
def slotName? (name : String) : Option String :=
  if (slotChars name).isEmpty then none else some (.ofList (slotChars name))

def folder (s : SaveStore) (slot : String) : FilePath := s.base.child slot

def primary (s : SaveStore) (slot : String) : FilePath := (s.folder slot).child primaryName

def temporary (s : SaveStore) (slot : String) : FilePath := (s.folder slot).child temporaryName

def backup (s : SaveStore) (slot : String) : FilePath := (s.folder slot).child backupName

def legacy (s : SaveStore) (slot : String) : FilePath := (s.folder slot).child legacyName

/-- The slot of a name. -/
def slotOf (name : String) : Except SaveFault String :=
  match slotName? name with
  | none => .error .badSlotName
  | some slot => .ok slot

/-- The slot of a name, once it has been looked for among the files. -/
def slotIn (s : SaveStore) (files : FileTree) (name : String) : Except SaveFault String := do
  let slot ← slotOf name
  match files.probe (s.primary slot) with
  | .error f => throw (.file f)
  | .ok _ => return slot

/-- The plan for a slot, if there is one. -/
def withSlot {α : Type} (slot : Except SaveFault String) (plan : String → SavePlan α) :
    SavePlan α :=
  match slot with
  | .error f => .fail f
  | .ok slot => plan slot

/-! ## Writing -/

/-- The sheet that is saved: the log goes no further back than the rules allow. -/
def savedPlayer (config : Config) (p : Player) : Player :=
  { p.repaired with log := capped config.maxLogEntries p.log }

def saveMetadata (s : SaveStore) (slot : String) (p : Player) : Json :=
  .obj
    [("schema", .str "save_v1"), ("version", .int schema), ("save_slot", .str slot),
      ("saved_at", .str s.clock),
      ("player_name", Player.optionalText (Table.get? Player.characterName p.vars)),
      ("current_step_id", Player.optionalText p.currentStepId)]

def savePayload (s : SaveStore) (slot : String) (p : Player) : Json :=
  .obj
    [("version", .int schema), ("metadata", s.saveMetadata slot p),
      ("state", .obj [("player", (savedPlayer s.config p).toJson)])]

/-- The current save is written aside and then put in place. -/
def writeActions (s : SaveStore) (slot : String) (payload : Json) (keep : List FileAction) :
    List FileAction :=
  .write (s.temporary slot) (.document payload) :: keep ++
    [.rename (s.temporary slot) (s.primary slot)]

/-- The save that is replaced becomes the backup. -/
def backupActions (s : SaveStore) (files : FileTree) (slot : String) : List FileAction :=
  if files.isThere (s.primary slot) then [.copy (s.primary slot) (s.backup slot)] else []

def writtenText (s : SaveStore) (label slot : String) : String :=
  "[" ++ label ++ "] Slot '" ++ slot ++ "' written to " ++ (s.primary slot).text ++ "."

/-- Saves a player; the answer is the path of the save. -/
def save (s : SaveStore) (files : FileTree) (name : String) (p : Player) (label : String)
    (quiet : Bool) : SavePlan FilePath :=
  withSlot (slotOf name) fun slot =>
    { actions := .makeFolders (s.folder slot) ::
        s.writeActions slot (s.savePayload slot p) (s.backupActions files slot)
      after := if quiet then [] else [s.writtenText (if label.isEmpty then "Saved" else label) slot]
      answer := .ok (s.primary slot) }

/-- Saves a player who has seen at least one step. -/
def autosave (s : SaveStore) (files : FileTree) (p : Player) : SavePlan (Option FilePath) :=
  if p.currentStepId.isNone && p.stepsCompleted = 0 then { answer := .ok none }
  else (s.save files autosaveSlot p "Autosave" true).map some

/-! ## Reading -/

/-- The parts that a save must have. -/
def checkSave (save : Json) : Except SaveFault Json :=
  let state := save.memberOrNull "state"
  let player := state.memberOrNull "player"
  if !state.isObject then .error .stateMissing
  else if !player.isObject then .error .playerMalformed
  else if (player.memberOrNull "tags").asList?.isNone then .error .tagsMissing
  else .ok save

/-- A value as a save, migrated and checked. -/
def currentSave (spell : Spelling) (v : Json) : Except SaveFault Json :=
  match migrateSpelt spell v schema with
  | .error f => .error (.migration f)
  | .ok save => checkSave save

def playerOf (save : Json) : Player :=
  .ofJson ((save.memberOrNull "state").memberOrNull "player")

/-- What a value is as a save. -/
def saveOf (v : Json) : Except SaveFault Save := do
  let written ← currentSave PairTable.written v
  let shown ← currentSave PairTable.described v
  return ⟨written, playerOf shown⟩

/-- The save in a file. -/
def readSave (files : FileTree) (path : FilePath) : Except SaveFault Save :=
  match files.readValue path with
  | .error (.file f) => .error (.file f)
  | .error .malformed => .error .malformed
  | .error .undecodable => .error (.fault .undecodable)
  | .error .hugeInteger => .error (.fault .unreadableNumber)
  | .error .tooDeep => .error (.fault .tooDeep)
  | .ok v => saveOf v

/-- The file that is loaded: the current save, or first the backup if that is preferred, or a save
of an earlier schema. -/
def target? (s : SaveStore) (files : FileTree) (slot : String) (preferBackup : Bool) :
    Option FilePath :=
  [if preferBackup then s.backup slot else s.primary slot, s.primary slot, s.legacy slot].find?
    files.isThere

def noSaveText (slot : String) : String := "[!] No save found for slot '" ++ slot ++ "'."

def noBackupText (slot : String) (f : SaveFault) : String :=
  "[!] Failed to load slot '" ++ slot ++ "': " ++ f.message?.getD "" ++ ". No backup available."

def unreadableText (slot : String) (f : SaveFault) : String :=
  "[!] Save slot '" ++ slot ++ "' could not be read: " ++ f.message?.getD ""

def backupFailedText (slot : String) (f : SaveFault) : String :=
  "[!] Backup for slot '" ++ slot ++ "' also failed: " ++ f.message?.getD ""

def restoredText (slot : String) : String :=
  "[Restore] Backup save applied for slot '" ++ slot ++ "'."

/-- Loads the backup in place of a save that is no good, and restores it. -/
def restore (s : SaveStore) (files : FileTree) (slot : String) (f : SaveFault) :
    SavePlan (Option Player) :=
  match readSave files (s.backup slot) with
  | .ok save =>
    { before := [unreadableText slot f]
      actions := s.writeActions slot save.written []
      after := [restoredText slot]
      answer := .ok (some save.player) }
  | .error g =>
    if g.isBadSave then
      { before := [unreadableText slot f, backupFailedText slot g], answer := .ok none }
    else { before := [unreadableText slot f], answer := .error g }

def loadFrom (s : SaveStore) (files : FileTree) (slot : String) (target : FilePath) :
    SavePlan (Option Player) :=
  match readSave files target with
  | .ok save => { answer := .ok (some save.player) }
  | .error f =>
    if !f.isBadSave then .fail f
    else if !files.isThere (s.backup slot) || target = s.backup slot then
      { before := [noBackupText slot f], answer := .ok none }
    else s.restore files slot f

/-- Loads the player of a slot; no player when there is nothing usable. -/
def load (s : SaveStore) (files : FileTree) (name : String) (preferBackup : Bool) :
    SavePlan (Option Player) :=
  withSlot (s.slotIn files name) fun slot =>
    match s.target? files slot preferBackup with
    | none => { before := [noSaveText slot], answer := .ok none }
    | some target => s.loadFrom files slot target

/-- Loads the player of a slot, or makes a new one. -/
def loadOrNew (s : SaveStore) (files : FileTree) (name : String) (character : Option String) :
    SavePlan Player :=
  (s.load files name false).map fun p => p.getD (.new s.config character fun _ => none)

/-! ## The slots -/

def has (s : SaveStore) (files : FileTree) (name : String) : Except SaveFault Bool := do
  let slot ← s.slotIn files name
  return [s.primary slot, s.backup slot, s.legacy slot].any files.isThere

/-- Removes a slot with everything in it; the answer tells whether there was one. -/
def delete (s : SaveStore) (files : FileTree) (name : String) : SavePlan Bool :=
  withSlot (s.slotIn files name) fun slot =>
    if files.isThere (s.folder slot) then
      { actions := [.removeTree (s.folder slot)], answer := .ok true }
    else { answer := .ok false }

/-- The metadata of a save; a save that is no good has none to show. -/
def readMetadata (files : FileTree) (slot : String) (path : FilePath) :
    Except SaveFault SlotMetadata :=
  match readSave files path with
  | .error f => if f.isBadSave then .ok { slot } else .error f
  | .ok save =>
    let metadata := (save.written.member? "metadata").getD (.obj [])
    if metadata.isObject then
      .ok ⟨slot, metadata.memberOrNull "saved_at", metadata.memberOrNull "player_name",
        metadata.memberOrNull "current_step_id"⟩
    else .error (.fault .noMembers)

/-- The save that stands for a slot in a listing: backups do not. -/
def listed? (s : SaveStore) (files : FileTree) (slot : String) : Option FilePath :=
  [s.primary slot, s.legacy slot].find? files.isThere

/-- The slots in the order of their names; the autosave slot only on demand. -/
def list (s : SaveStore) (files : FileTree) (includeAutosave : Bool) :
    Except SaveFault (List SlotMetadata) :=
  if !files.isThere s.base then .ok []
  else if !files.isFolder s.base then .error (.file ⟨.notAFolder, s.base⟩)
  else
    let slots := (files.children s.base).filter fun slot =>
      files.isFolder (s.folder slot) && (includeAutosave || slot != autosaveSlot)
    (slots.filterMap fun slot => (s.listed? files slot).map fun path => (slot, path)).mapM
      fun (slot, path) => readMetadata files slot path

/-- Makes the folder that holds the slots. -/
def create (s : SaveStore) (files : FileTree) : Except FileFault FileTree :=
  files.makeFolders s.base

end SaveStore

end Questline
