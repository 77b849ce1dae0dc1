import Questline.Content.Record
import Questline.Draws
import Questline.Player

/-!
# Skill checks

A die, plus a bonus for every skill, against a difficulty.  A stat brings its
effective value; any other skill is a tag and brings a fixed bonus per copy.
-/

namespace Questline

structure SkillBonus where
  source : String
  value : Int
  fromStat : Bool
deriving DecidableEq

structure SkillCheck where
  roll : Int
  bonuses : List SkillBonus
  totalBonus : Int
  total : Int
  dc : Int
  success : Bool
deriving DecidableEq

def skillBonus (config : Config) (p : Player) (source : String) : SkillBonus :=
  match Stat.ofName? source with
  | some stat => ⟨source, p.effectiveStat config stat, true⟩
  | none => ⟨source, p.count source * config.tagSkillBonus, false⟩

/-- The outcome of a roll with the given bonuses. -/
def SkillCheck.of (bonuses : List SkillBonus) (dc roll : Int) : SkillCheck :=
  let totalBonus := Questline.total (bonuses.map (·.value))
  ⟨roll, bonuses, totalBonus, roll + totalBonus, dc, dc ≤ roll + totalBonus⟩

/-- The roll that was announced, or else one that is drawn. -/
def rollFor (config : Config) (announced : Option Int) (draws : Draws) : Int × Draws :=
  match announced with
  | some roll => (roll, draws)
  | none => draws.roll config.dieSides

/-- Checks the skills of a player. -/
def checkSkills (config : Config) (skills : List String) (dc : Int) (p : Player)
    (announced : Option Int) (draws : Draws) : SkillCheck × Draws :=
  let (roll, draws) := rollFor config announced draws
  (.of (skills.map (skillBonus config p)) dc roll, draws)

/-- Where an option leads after its skill check. -/
def nextTarget {α : Type} (o : OptionOf α) (check : SkillCheck) : Option α :=
  if check.success then o.passTarget else o.failTarget

end Questline
