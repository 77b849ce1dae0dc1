import Questline.Cap
import Questline.Config
import Questline.Tag
import Questline.Total

/-!
# Players

A player holds tags with repetition, quest variables, a log with the newest
entry first and a character sheet.  A sheet that comes from outside is
repaired: what has the wrong shape is dropped.
-/

namespace Questline

theorem Stat.ofName?_of_mem_nil : ∀ m ∈ ([] : Table Json), Stat.ofName? m.1 = none := by simp

@[ext]
structure Player where
  tags : List String := []
  vars : Table String := []
  log : List String := []
  stats : Stats := {}
  /-- Members of the stat block that are no stats; they are kept as they are. -/
  otherStats : Table Json := []
  xp : Int := 0
  stepsCompleted : Nat := 0
  currentStepId : Option String := none
  leveledUp : Bool := false
  otherStats_ofName? : ∀ m ∈ otherStats, Stat.ofName? m.1 = none := by
    exact Stat.ofName?_of_mem_nil
deriving DecidableEq

instance : Inhabited Player := ⟨{}⟩

/-- A character sheet before it is known what its fields hold. -/
structure LooseSheet where
  tags : Json := .null
  vars : Json := .null
  log : Json := .null
  stats : Json := .null
  xp : Json := .int 0
  stepsCompleted : Json := .int 0
  currentStepId : Json := .null

namespace LooseSheet

def textsIn (xs : List Json) : List String := xs.filterMap Json.asText?

def variablesIn (ms : Table Json) : Table String :=
  ms.filterMap fun p => if p.2.isNull then none else some (p.1, p.2.describe)

def statsIn (ms : Table Json) : Stats :=
  .ofFunction fun stat => ((Table.get? stat.name ms).bind Json.asInt?).getD 0

def otherStatsIn (ms : Table Json) : Table Json :=
  ms.filter fun p => (Stat.ofName? p.1).isNone

theorem ofName?_of_mem_otherStatsIn {ms : Table Json} {m : String × Json}
    (h : m ∈ otherStatsIn ms) : Stat.ofName? m.1 = none := by
  simpa using (List.mem_filter.mp h).2

/-- A counter is an integer that is not negative. -/
def counterIn (v : Json) : Nat := (v.asInt?.getD 0).toNat

def membersIn (v : Json) : Table Json := v.asObject?.getD []

/-- The player of a sheet whose tags have been listed. -/
def repairWith (s : LooseSheet) (tags : List Json) : Player where
  tags := textsIn tags
  vars := variablesIn (membersIn s.vars)
  log := textsIn (s.log.asList?.getD [])
  stats := statsIn (membersIn s.stats)
  otherStats := otherStatsIn (membersIn s.stats)
  xp := counterIn s.xp
  stepsCompleted := counterIn s.stepsCompleted
  currentStepId := s.currentStepId.asText?
  otherStats_ofName? := fun _ => ofName?_of_mem_otherStatsIn

/-- The player of a sheet.  Tags may be anything to go through; nothing at all counts as no tags. -/
def repair (s : LooseSheet) : Except Fault Player := do
  let tags ← if s.tags.isGiven then s.tags.itemsOf else .ok []
  return s.repairWith tags

end LooseSheet

namespace Player

def characterName : String := "character_name"

def levelTag : String := "level"

/-- A player from written data; fields that are not what they should be count as empty. -/
def ofJson (v : Json) : Player :=
  let sheet : LooseSheet :=
    { vars := v.memberOrNull "variables"
      log := v.memberOrNull "log"
      stats := v.memberOrNull "stats"
      xp := (v.member? "xp").getD (.int 0)
      stepsCompleted := (v.member? "steps_completed").getD (.int 0)
      currentStepId := v.memberOrNull "current_step_id" }
  sheet.repairWith (((v.member? "tags").bind Json.asList?).getD [])

def statsJson (p : Player) : Table Json := p.otherStats ++ p.stats.toTable

def variablesJson (vars : Table String) : Json := .obj (Table.mapValues Json.str vars)

def optionalText (s : Option String) : Json := s.elim .null .str

/-- The character sheet as written data; a pending level-up is not part of it. -/
def toJson (p : Player) : Json :=
  .obj
    [("tags", .arr (p.tags.map .str)),
      ("variables", variablesJson p.vars),
      ("log", .arr (p.log.map .str)),
      ("stats", .obj p.statsJson),
      ("xp", .int p.xp),
      ("steps_completed", .int p.stepsCompleted),
      ("current_step_id", optionalText p.currentStepId)]

def toLoose (p : Player) : LooseSheet where
  tags := .arr (p.tags.map .str)
  vars := variablesJson p.vars
  log := .arr (p.log.map .str)
  stats := .obj p.statsJson
  xp := .int p.xp
  stepsCompleted := .int p.stepsCompleted
  currentStepId := optionalText p.currentStepId

/-- The fields that can be written over from outside. -/
inductive Field where
  | tags
  | vars
  | log
  | stats
  | xp
  | stepsCompleted
  | currentStepId

def Field.ofName? : String → Option Field
  | "tags" => some .tags
  | "variables" => some .vars
  | "log" => some .log
  | "stats" => some .stats
  | "xp" => some .xp
  | "steps_completed" => some .stepsCompleted
  | "current_step_id" => some .currentStepId
  | _ => none

/-- Writes a field over with any value and repairs the sheet. -/
def assign (p : Player) (field : Field) (v : Json) : Except Fault Player := do
  let sheet := p.toLoose
  let sheet := match field with
    | .tags => { sheet with tags := v }
    | .vars => { sheet with vars := v }
    | .log => { sheet with log := v }
    | .stats => { sheet with stats := v }
    | .xp => { sheet with xp := v }
    | .stepsCompleted => { sheet with stepsCompleted := v }
    | .currentStepId => { sheet with currentStepId := v }
  return { ← sheet.repair with leveledUp := p.leveledUp }

/-- A negative experience counts as none. -/
def repaired (p : Player) : Player := { p with xp := max p.xp 0 }

/-- A second player equal to the first up to repair. -/
def copy (p : Player) : Player := { ofJson p.toJson with leveledUp := p.leveledUp }

/-- Stats that a new character asks for: every stat that the value names, other things than
integers counting as zero. -/
def chosenStats (v : Json) (stat : Stat) : Option Int :=
  (v.member? stat.name).map fun n => n.asInt?.getD 0

/-- A new player with the starting stats, the chosen ones in their place, and a name unless it is
blank. -/
def new (config : Config) (name : Option String) (chosen : Stat → Option Int) : Player where
  stats := .ofFunction fun stat => (chosen stat).getD (config.startingStats.get stat)
  vars :=
    match name with
    | none => []
    | some name => if Text.isBlankText name then [] else [(characterName, Text.trim name)]

/-- How many copies of a tag are held. -/
def count (p : Player) (tag : String) : Nat := p.tags.count tag

def has (p : Player) (tag : String) : Bool := p.tags.contains tag

def level (p : Player) (config : Config) : Int := Int.fdiv p.xp config.xpPerLevel + 1

/-- So many copies of a tag can be numbered. -/
def countLimit : Nat := Nat.pow 2 63 - 1

/-- For so many copies of a tag there is room. -/
def roomLimit : Nat := Nat.pow 2 40

/-- Whether there can be a level tag for each level. -/
def checkLevel (p : Player) (config : Config) : Except Fault Unit :=
  if (countLimit : Int) < p.level config then .error .uncountable
  else if (roomLimit : Int) < p.level config then .error .noRoom
  else .ok ()

/-- The held tags together with one level tag per level. -/
def effectiveCounts (p : Player) (config : Config) : Counts := fun name =>
  (p.count name : Int) + if name = levelTag then max 0 (p.level config) else 0

/-- What one tag adds to a stat. -/
def modifierOf (config : Config) (stat : Stat) (tag : String) : Int :=
  ((config.modifiersOf tag).lookup stat).getD 0

/-- What the held tags add to a stat, every copy counting. -/
def statModifier (p : Player) (config : Config) (stat : Stat) : Int :=
  total (p.tags.map (modifierOf config stat))

def effectiveStat (p : Player) (config : Config) (stat : Stat) : Int :=
  p.stats.get stat + p.statModifier config stat

/-- What follows the lead in the tags that begin with it. -/
def tagsUnder (p : Player) (lead : String) : List String :=
  (p.tags.filter (Text.leads lead)).map (Text.dropLead lead)

/-- The same, sorted and without repetition. -/
def grouped (p : Player) (lead : String) : List String :=
  Text.sortTexts (p.tagsUnder lead).eraseDups

/-- The items with the number of copies, sorted by name. -/
def inventory (p : Player) : List (String × Nat) :=
  (p.grouped "inv:").map fun item => (item, (p.tagsUnder "inv:").count item)

def traits (p : Player) : List String := p.grouped "trait:"

def statuses (p : Player) : List String := p.grouped "status:"

def allies (p : Player) : List String := p.grouped "ally:"

def completedQuests (p : Player) : List String := p.grouped "done:"

def itemText (item : String × Nat) : String :=
  if item.2 > 1 then item.1 ++ " x" ++ toString item.2 else item.1

/-- A list of texts on one line; a dash stands for none. -/
def listed (xs : List String) : String :=
  let line := Text.joined ", " xs
  if line.isEmpty then "-" else line

def statLine (stats : Stats) : String :=
  Text.joined " " (Stat.all.map fun stat => stat.title ++ ":" ++ toString (stats.get stat))

def itemLine (p : Player) : String := listed (p.inventory.map itemText)

def summary (p : Player) : String :=
  statLine p.stats ++ " | XP:" ++ toString p.xp ++ " | ITEMS:[" ++ p.itemLine ++ "] | TRAITS:[" ++
    listed p.traits ++ "]"

def addTag (p : Player) (tag : String) : Player := { p with tags := p.tags ++ [tag] }

/-- Removes every tag that begins with the lead. -/
def purge (p : Player) (lead : String) : Player :=
  { p with tags := p.tags.filter fun t => !Text.leads lead t }

def purged (p : Player) (lead : String) : List String := p.tags.filter (Text.leads lead)

/-- Adds experience; a rise in level is remembered until a stat is increased. -/
def grantXp (p : Player) (config : Config) (amount : Int) : Player :=
  let q := { p with xp := p.xp + amount }
  { q with leveledUp := p.leveledUp || p.level config < q.level config }

def gainsLevel (p : Player) (config : Config) (amount : Int) : Bool :=
  p.level config < ({ p with xp := p.xp + amount } : Player).level config

/-- Removes one copy of a tag, if there is one.  Removing the quest tag ends the quest: it grants
the quest's experience and purges every tag of the quest. -/
def removeTag (p : Player) (config : Config) (tag : String) : Player :=
  if p.has tag then
    let q := { p with tags := p.tags.erase tag }
    if tag = config.questTag then (q.grantXp config config.questXp).purge config.questLead else q
  else p

/-- Raises a stat and settles a pending level-up. -/
def increaseStat (p : Player) (stat : Stat) (amount : Int) : Player :=
  { p with stats := p.stats.set stat (p.stats.get stat + amount), leveledUp := false }

def setVariable (p : Player) (name value : String) : Player :=
  { p with vars := Table.set name value p.vars }

/-- Removes a variable and all of its fields. -/
def clearVariable (p : Player) (name : String) : Player :=
  { p with vars := p.vars.filter fun v => v.1 ≠ name && !Text.leads (name ++ ".") v.1 }

/-- Adds the newest entry; when the log outgrows its cap the oldest entries go. -/
def addLogEntry (p : Player) (entry : String) (cap : Int) : Player :=
  { p with log := capped cap (entry :: p.log) }

end Player

end Questline
