import Questline.Fault
import Questline.Text.Trim

/-!
# Rules configuration

The tunable rules, their ranges, and two ways to read them: `Config.ofJson`
takes what it can use and the defaults for the rest, `Config.ofFields` insists
on every field it is given.  Both bring every number into its range.
-/

namespace Questline

inductive Stat where
  | might
  | guile
  | magic
deriving DecidableEq

namespace Stat

def all : List Stat := [might, guile, magic]

def name : Stat → String
  | might => "might"
  | guile => "guile"
  | magic => "magic"

def title : Stat → String
  | might => "Might"
  | guile => "Guile"
  | magic => "Magic"

def ofName? (s : String) : Option Stat := all.find? fun stat => stat.name = s

/-- What is said of a name that is no stat's. -/
def unknownMessage (name : String) : String := "unknown stat '" ++ name ++ "'"

end Stat

structure Stats where
  might : Int := 0
  guile : Int := 0
  magic : Int := 0
deriving DecidableEq

namespace Stats

def get (s : Stats) : Stat → Int
  | .might => s.might
  | .guile => s.guile
  | .magic => s.magic

def set (s : Stats) (stat : Stat) (n : Int) : Stats :=
  match stat with
  | .might => { s with might := n }
  | .guile => { s with guile := n }
  | .magic => { s with magic := n }

def ofFunction (f : Stat → Int) : Stats := ⟨f .might, f .guile, f .magic⟩

def toTable (s : Stats) : Table Json := Stat.all.map fun stat => (stat.name, .int (s.get stat))

@[simp] theorem get_set_self (s : Stats) (stat : Stat) (n : Int) : (s.set stat n).get stat = n := by
  cases stat <;> rfl

theorem get_set_of_ne (s : Stats) {stat other : Stat} (h : other ≠ stat) (n : Int) :
    (s.set stat n).get other = s.get other := by
  cases stat <;> cases other <;> first | rfl | exact absurd rfl h

end Stats

/-- What a held tag adds to the stats. -/
abbrev Modifiers := List (Stat × Int)

structure Config where
  startingStats : Stats := ⟨2, 2, 2⟩
  statIncreaseAmount : Int := 1
  preferredTagWeight : Int := 5
  startingPoints : Int := 0
  statModifiers : Table Modifiers := []
  xpPerLevel : Int := 5
  questXp : Int := 1
  maxLogEntries : Int := 100
  questTag : String := "quest"
  questLead : String := "q:"
  internalLead : String := "_"
  tagSkillBonus : Int := 2
  dieSides : Int := 6
  patchTextSeparator : String := ""
deriving DecidableEq

instance : Inhabited Config := ⟨{}⟩

namespace Config

def clampInt (low high n : Int) : Int := max low (min high n)

def orElse (s fallback : String) : String := if s.isEmpty then fallback else s

/-- Every number within its range, no mark empty that must not be, no modifier without effect. -/
def clamp (c : Config) : Config where
  startingStats := c.startingStats
  statIncreaseAmount := clampInt 0 100 c.statIncreaseAmount
  preferredTagWeight := clampInt 0 1000 c.preferredTagWeight
  startingPoints := clampInt 0 1000 c.startingPoints
  statModifiers := c.statModifiers.filter fun p => !p.2.isEmpty
  xpPerLevel := clampInt 1 1000 c.xpPerLevel
  questXp := clampInt 0 1000 c.questXp
  maxLogEntries := clampInt 1 10000 c.maxLogEntries
  questTag := orElse c.questTag "quest"
  questLead := orElse c.questLead "q:"
  internalLead := c.internalLead
  tagSkillBonus := clampInt 0 100 c.tagSkillBonus
  dieSides := clampInt 2 100 c.dieSides
  patchTextSeparator := c.patchTextSeparator

/-- The names of the settings, in the order of the record. -/
def settingNames : List String :=
  ["starting_stats", "stat_increase_amount", "preferred_tag_weight", "starting_points",
    "stat_modifiers", "xp_per_level", "quest_xp", "max_log_entries", "quest_tag", "quest_prefix",
    "internal_prefix", "tag_skill_bonus", "die_sides", "patch_text_separator"]

/-- Content files write the settings in another spelling. -/
def authoredNames : Table String :=
  [("startingStats", "starting_stats"), ("statIncreaseAmount", "stat_increase_amount"),
    ("preferredTagWeight", "preferred_tag_weight"), ("startingPoints", "starting_points"),
    ("statModifiers", "stat_modifiers"), ("xpPerLevel", "xp_per_level"), ("questXp", "quest_xp"),
    ("maxLogEntries", "max_log_entries"), ("questTag", "quest_tag"),
    ("questPrefix", "quest_prefix"), ("internalPrefix", "internal_prefix"),
    ("tagSkillBonus", "tag_skill_bonus"), ("dieSides", "die_sides"),
    ("patchTextSeparator", "patch_text_separator")]

def settingName (key : String) : String := (Table.get? key authoredNames).getD key

/-- How single settings are read: the default, and the value given, if any. -/
structure Reading where
  integer : Int → Option Json → Except Fault Int
  text : String → Option Json → String

/-- Takes an integer where there is one and a text where there is one. -/
def forgiving : Reading where
  integer default given := Json.integerOr default (given.getD .null)
  text default given := ((given.bind Json.asText?).getD default)

/-- Takes the integer of any value, or fails, and the text of any value. -/
def insisting : Reading where
  integer default given := given.elim (.ok default) Json.toInteger
  text default given := given.elim default Json.describe

def readStats (given : Table Json) : Except Fault Stats := do
  let stat (s : Stat) : Except Fault Int :=
    Json.integerOr (({} : Config).startingStats.get s) ((Table.get? s.name given).getD .null)
  return ⟨← stat .might, ← stat .guile, ← stat .magic⟩

def readModifiers (given : Table Json) : Except Fault Modifiers := do
  let read ← given.mapM fun (name, v) => do
    match Stat.ofName? name with
    | none => return none
    | some stat => return some (stat, ← Json.integerOr 0 v)
  return read.filterMap id

/-- Modifiers come from objects only, one per tag. -/
def readModifierTable (given : Table Json) : Except Fault (Table Modifiers) := do
  let read ← given.mapM fun (tag, v) => do
    match v.asObject? with
    | none => return none
    | some mods => return some (tag, ← readModifiers mods)
  return read.filterMap id

/-- The settings of a table, each read in the given way, and all brought into range. -/
def readSettings (how : Reading) (stats modifiers : Table Json) (settings : Table Json) :
    Except Fault Config := do
  let d : Config := {}
  let integer (name : String) (default : Int) := how.integer default (Table.get? name settings)
  let text (name : String) (default : String) := how.text default (Table.get? name settings)
  let startingStats ← readStats stats
  let statModifiers ← readModifierTable modifiers
  let statIncreaseAmount ← integer "stat_increase_amount" d.statIncreaseAmount
  let preferredTagWeight ← integer "preferred_tag_weight" d.preferredTagWeight
  let startingPoints ← integer "starting_points" d.startingPoints
  let xpPerLevel ← integer "xp_per_level" d.xpPerLevel
  let questXp ← integer "quest_xp" d.questXp
  let maxLogEntries ← integer "max_log_entries" d.maxLogEntries
  let tagSkillBonus ← integer "tag_skill_bonus" d.tagSkillBonus
  let dieSides ← integer "die_sides" d.dieSides
  let read : Config :=
    { startingStats, statIncreaseAmount, preferredTagWeight, startingPoints, statModifiers,
      xpPerLevel, questXp, maxLogEntries, tagSkillBonus, dieSides
      questTag := text "quest_tag" d.questTag
      questLead := text "quest_prefix" d.questLead
      internalLead := text "internal_prefix" d.internalLead
      patchTextSeparator := text "patch_text_separator" d.patchTextSeparator }
  return read.clamp

/-- The object of a setting; anything else counts as the fallback. -/
def objectOr (fallback : Table Json) (given : Option Json) : Table Json :=
  (given.bind Json.asObject?).getD fallback

/-- The configuration that a value describes; of two spellings of one setting the later counts. -/
def ofJson (v : Json) : Except Fault Config :=
  match v.asObject? with
  | none => .ok {}
  | some given =>
    let settings := Table.ofPairs (given.map fun p => (settingName p.1, p.2))
    readSettings forgiving
      (objectOr ({} : Config).startingStats.toTable (Table.get? "starting_stats" settings))
      (objectOr [] (Table.get? "stat_modifiers" settings)) settings

/-- The configuration of fields taken at their word; unknown fields are refused. -/
def ofFields (fields : Table Json) : Except Fault Config := do
  if fields.any fun p => !settingNames.contains p.1 then throw .wrongKind
  let stats ← match Table.get? "starting_stats" fields with
    | none => .ok ({} : Config).startingStats.toTable
    | some v => v.asObject?.elim (.error .noMembers) .ok
  let _ ← readStats stats
  let modifiers ← match (Table.get? "stat_modifiers" fields).bind Json.given? with
    | none => .ok []
    | some v => v.asObject?.elim (.error .noMembers) .ok
  readSettings insisting stats modifiers fields

def modifiersJson (mods : Modifiers) : Json :=
  .obj (mods.map fun p => (p.1.name, .int p.2))

def toJson (c : Config) : Json :=
  .obj
    [("starting_stats", .obj c.startingStats.toTable),
      ("stat_increase_amount", .int c.statIncreaseAmount),
      ("preferred_tag_weight", .int c.preferredTagWeight),
      ("starting_points", .int c.startingPoints),
      ("stat_modifiers", .obj (c.statModifiers.map fun p => (p.1, modifiersJson p.2))),
      ("xp_per_level", .int c.xpPerLevel),
      ("quest_xp", .int c.questXp),
      ("max_log_entries", .int c.maxLogEntries),
      ("quest_tag", .str c.questTag),
      ("quest_prefix", .str c.questLead),
      ("internal_prefix", .str c.internalLead),
      ("tag_skill_bonus", .int c.tagSkillBonus),
      ("die_sides", .int c.dieSides),
      ("patch_text_separator", .str c.patchTextSeparator)]

/-- A second configuration equal to the first, through its written form. -/
def copy (c : Config) : Except Fault Config := ofJson c.toJson

/-- The modifiers of a tag. -/
def modifiersOf (c : Config) (tag : String) : Modifiers :=
  (Table.get? tag c.statModifiers).getD []

end Config

end Questline
