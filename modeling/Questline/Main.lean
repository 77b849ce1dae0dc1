import Questline.Command.Authoring
import Questline.Command.Disk
import Questline.Command.Game

/-!
# The command line

The first word may name a command for authors; without one the words are those
of the game.  Only this module and `Disk` touch the terminal and the disk.
-/

namespace Questline

/-- The paths that a command for authors looks at. -/
def Authoring.Tool.paths (t : Authoring.Tool) (a : Arguments) : List FilePath :=
  match t with
  | .merge => [Authoring.questsPath a, Authoring.outputPath a]
  | _ => [Authoring.contentPath a]

def runTool (t : Authoring.Tool) (words : List String) : IO UInt32 := do
  let here := toString (← IO.currentDir)
  match Arguments.parse t.specs t.takesPositional words with
  | .error f => Disk.finish (.refuse {} t.usage f)
  | .ok a =>
    let files ← (t.paths a).foldlM (fun files p => Disk.read files p 1) {}
    Disk.finish (t.run files here words)

/-- More numbers than a turn is likely to draw. -/
def drawsPerTurn : Nat := 4096

def freshDraws : IO Draws := do
  return { pending := ← (List.range drawsPerTurn).mapM fun _ => IO.rand 0 4294967295 }

/-- Plays on, one line of input after the other. -/
partial def converse (g : Game) : IO UInt32 := do
  Disk.carryOut (.print g.play.stage.prompt)
  let line ← (← IO.getStdin).getLine
  let draws ← freshDraws
  let g := { g with play.session.draws := draws }
  let (run, next) := g.turn (if line.isEmpty then none else some line)
  let code ← Disk.finish run
  match next with
  | some g => converse g
  | none => return code

def runGame (words : List String) : IO UInt32 := do
  match GameOptions.parse words with
  | .error f => Disk.finish (.refuse {} GameOptions.usage f)
  | .ok o =>
    let seed ← match o.seed with
      | some seed => pure seed.toNat
      | none => IO.monoNanosNow
    IO.setRandSeed seed
    let files ← Disk.read (← Disk.read {} o.content 1) o.saves 2
    let (run, next) := Game.start o files (← freshDraws) (← Disk.now)
    let code ← Disk.finish run
    match next with
    | some g => converse g
    | none => return code

end Questline

def main (words : List String) : IO UInt32 :=
  match words with
  | [] => Questline.runGame []
  | word :: rest =>
    match Questline.Authoring.Tool.ofName? word with
    | some tool => Questline.runTool tool rest
    | none => Questline.runGame words
