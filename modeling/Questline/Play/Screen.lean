import Questline.Session
import Questline.Text.Wrap

/-!
# The screen

What a player gets to read: steps with their options, outcomes of actions, the
state of the character.  Everything is a list of lines; with each line go the
numbers in it, as one of too many digits cannot be written.
-/

namespace Questline.Screen

/-- A line and the numbers that are written in it. -/
structure Line where
  text : String
  numbers : List Int := []

def Line.isWritable (l : Line) : Bool := l.numbers.all Text.isWritable

/-- Lines without numbers. -/
def plain (lines : List String) : List Line := lines.map fun text => { text }

def lineWidth : Nat := 80

/-- The number of log entries that are shown. -/
def logPreview : Nat := 5

def ruler (c : Char) : String := .ofList (List.replicate lineWidth c)

def paragraphLines (cs : List Char) : List String :=
  if cs.all Text.isBlank then [""] else Text.wrap lineWidth (.ofList cs)

/-- The paragraphs of a text, each wrapped on its own. -/
def textLines (text : String) : List String :=
  (Text.partsAt '\n' text.toList).flatMap paragraphLines

/-- An option under its number; one that is not available with what it needs. -/
def optionLine (number : Nat) (v : OptionView) : Line where
  text :=
    "  " ++ toString number ++ ". " ++ v.label ++
      if v.available then "" else " (needs " ++ Text.joined ", " v.missing ++ ")"
  numbers := [number]

def optionLines (options : List OptionView) : List Line :=
  if options.isEmpty then plain ["  (Enter to leave)"]
  else options.mapIdx fun i v => optionLine (i + 1) v

def statNumbers (stats : Stats) : List Int := Stat.all.map stats.get

def itemNumbers (p : Player) : List Int := p.inventory.map fun item => (item.2 : Int)

def summaryLine (p : Player) : Line where
  text := p.summary
  numbers := statNumbers p.stats ++ [p.xp] ++ itemNumbers p

def viewLines (view : StepView) (p : Player) : List Line :=
  plain (["\n" ++ ruler '='] ++ textLines view.text ++ [ruler '-']) ++ [summaryLine p] ++
    plain [ruler '-'] ++ optionLines view.options

def mutationLines (m : Mutations) : List Line :=
  plain (m.added.map ("[+] " ++ ·) ++ m.removed.map ("[-] " ++ ·))

def bonusText (b : SkillBonus) : String := b.source ++ " " ++ toString b.value

def checkLine (c : SkillCheck) : Line :=
  let bonuses := Text.joined " + " (c.bonuses.map bonusText)
  { text :=
      "Rolled " ++ toString c.roll ++ " + (" ++ (if bonuses.isEmpty then "0" else bonuses) ++
        ") = " ++ toString c.total ++ " vs DC " ++ toString c.dc ++ ". " ++
        if c.success then "Success!" else "Failure."
    numbers := c.roll :: c.bonuses.map (·.value) ++ [c.total, c.dc] }

def outcomeLines (o : Outcome) (p : Player) : List Line :=
  plain (o.message?.map ("[!] " ++ ·)).toList ++ o.mutations?.elim [] mutationLines ++
    o.view?.elim [] (viewLines · p) ++ (o.check?.map checkLine).toList

def statLine (config : Config) (p : Player) (stat : Stat) : Line where
  text := "  " ++ stat.title ++ ": " ++ toString (p.effectiveStat config stat)
  numbers := [p.effectiveStat config stat]

def statusLines (config : Config) (p : Player) : List Line :=
  [{ text := "Level " ++ toString (p.level config) ++ " (" ++ toString p.xp ++ " XP)"
     numbers := [p.level config, p.xp] }] ++
    Stat.all.map (statLine config p) ++
    [{ text := "Items: " ++ p.itemLine, numbers := itemNumbers p }] ++
    plain ["Traits: " ++ Player.listed p.traits, "Status: " ++ Player.listed p.statuses,
      "Allies: " ++ Player.listed p.allies, "Completed: " ++ Player.listed p.completedQuests]

def logLines (p : Player) : List Line :=
  if p.log.isEmpty then plain ["The quest log is empty."]
  else plain ((p.log.take logPreview).map ("  - " ++ ·))

def statNames : List String := Stat.all.map Stat.name

/-- The stats of a character that is being made, and what is left to spend. -/
def pointsLine (stats : Stats) (points : Nat) : Line where
  text := Player.statLine stats ++ " | " ++ toString points ++ " point(s) left"
  numbers := statNumbers stats ++ [(points : Int)]

def levelLine (config : Config) (p : Player) : Line where
  text := "*** Level " ++ toString (p.level config) ++ "! ***"
  numbers := [p.level config]

end Questline.Screen
