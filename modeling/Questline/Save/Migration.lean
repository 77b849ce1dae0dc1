import Questline.Config
import Questline.Json.Levels
import Questline.Json.PairTable

/-!
# Migration of saves

Saves carry the number of their schema.  The first schema was a flat sheet with
the tags in a block of the character; `migrate` brings a copy of a save to a
later one, schema by schema.  The variables of a flat save may be given as
pairs, and then it matters how their names are spelt: as they are written or as
they are shown.
-/

namespace Questline

/-- Why a save cannot be migrated. -/
inductive MigrationFault where
  | notAnObject
  | badVersion
  | tooNew (version : String) (supported : Int)
  | noMigration (version : String)
  | noCharacter
  | fault (f : Fault)
deriving DecidableEq

namespace MigrationFault

def message? : MigrationFault → Option String
  | notAnObject => some "Save payload was not an object."
  | badVersion => some "Save version missing or invalid."
  | tooNew version supported =>
    some ("Save schema " ++ version ++ " is newer than supported " ++ toString supported ++ ".")
  | noMigration version => some ("No migration available for save schema " ++ version ++ ".")
  | noCharacter => some "Missing character block for legacy save."
  | fault _ => none

end MigrationFault

/-- How the names of variables given as pairs are spelt. -/
abbrev Spelling := PairTable → Table Json

namespace Migration

def lift {α : Type} : Except Fault α → Except MigrationFault α
  | .ok a => .ok a
  | .error f => .error (.fault f)

/-- A member that counts as given, or else a stand-in. -/
def givenOr (v : Json) (key : String) (standIn : Json) : Json :=
  ((v.memberOrNull key).given?).getD standIn

def flatStats (character : Json) : Table Json :=
  Stat.all.map fun stat => (stat.name, (character.member? stat.name).getD (.int 0))

/-- The sheet of a flat save. -/
def flatSheet (spell : Spelling) (save : Json) : Except MigrationFault Json := do
  let character := save.memberOrNull "character"
  if !character.isObject then throw .noCharacter
  let tags ← lift (givenOr character "metadata" (.arr [])).itemsOf
  let vars ← lift (PairTable.ofJson (givenOr save "questVars" (.obj [])))
  let log ← lift (givenOr save "questLog" (.arr [])).itemsOf
  return .obj
    [("tags", .arr tags), ("variables", .obj (spell vars)), ("log", .arr log),
      ("stats", .obj (flatStats character)),
      ("xp", (character.member? "xp").getD (.int 0)),
      ("steps_completed", (character.member? "stepsCompleted").getD (.int 0)),
      ("current_step_id", save.memberOrNull "currentStepId")]

/-- The block of a save that holds the player. -/
def stateOf (spell : Spelling) (save : Json) : Except MigrationFault Json := do
  let state := save.memberOrNull "state"
  if state.isObject then return state
  return .obj [("player", ← flatSheet spell save)]

/-- A member of the metadata that is there, or else what the player says. -/
def describedOr (metadata source : Json) (key sourceKey : String) : Json :=
  (metadata.member? key).getD (source.memberOrNull sourceKey)

def metadataOf (save state : Json) : Json :=
  let metadata := save.memberOrNull "metadata"
  let player := state.memberOrNull "player"
  .obj
    [("schema", .str "save_v1"), ("version", .int 1),
      ("save_slot", givenOr metadata "save_slot" (save.memberOrNull "save_slot")),
      ("saved_at", givenOr metadata "saved_at" (save.memberOrNull "saved_at")),
      ("player_name",
        describedOr metadata (player.memberOrNull "variables") "player_name" "character_name"),
      ("current_step_id", describedOr metadata player "current_step_id" "current_step_id")]

/-- A save of the first schema in the second. -/
def toSecondSchema (spell : Spelling) (save : Json) : Except MigrationFault Json := do
  let state ← stateOf spell save
  return .obj [("version", .int 1), ("metadata", metadataOf save state), ("state", state)]

/-- Migrates through the given number of schemas; there is a migration for the first only. -/
def climb (spell : Spelling) : Nat → Json → Json → Except MigrationFault Json
  | 0, _, save => .ok save
  | steps + 1, version, save =>
    if version.countingValue? = some 0 then do
      climb spell steps (.int 1) (← toSecondSchema spell save)
    else .error (.noMigration version.describe)

/-- The schema of a save; one without a number is of the first. -/
def versionOf (save : Json) : Json :=
  match save.memberOrNull "version" with
  | .null => .int 0
  | v => v

end Migration

open Migration in
/-- A save in the schema `target`, the names of flat variables spelt in a given way.  Even a save
that is left as it is has to be copied. -/
def migrateSpelt (spell : Spelling) (save : Json) (target : Int) :
    Except MigrationFault Json := do
  if !save.isObject then throw .notAnObject
  let version := versionOf save
  match version.countingValue? with
  | none => throw .badVersion
  | some n =>
    if target < n then throw (.tooNew version.describe target)
    else if !save.isCopyable then throw (.fault .tooDeep)
    else climb spell (target - n).toNat version save

/-- A save in the schema `target`, as it is written. -/
def migrate (save : Json) (target : Int) : Except MigrationFault Json :=
  migrateSpelt PairTable.written save target

end Questline
