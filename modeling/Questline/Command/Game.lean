import Questline.Command.Run
import Questline.Play.Conversation

/-!
# The game command

Loads content, resumes the saved player if there is one, and plays.  Every
player that the session hands over is saved at once.
-/

namespace Questline

structure GameOptions where
  content : FilePath
  saves : FilePath
  slot : String
  isNew : Bool
  /-- Where draws are to start from, if that is fixed. -/
  seed : Option Int
  isVerbose : Bool

namespace GameOptions

def specs : List OptionSpec :=
  [{ names := ["--seed"], key := "seed", accepts := fun s => (Text.integer? s).isSome },
    { names := ["--saves"], key := "saves" }, { names := ["--slot"], key := "slot" },
    { names := ["--new"], key := "new", takesValue := false },
    { names := ["--verbose", "-v"], key := "verbose", takesValue := false }]

def usage : String :=
  "usage: questline [CONTENT] [--seed N] [--saves DIR] [--slot NAME] [--new] [--verbose]"

def ofArguments (a : Arguments) : GameOptions where
  content := .ofText (a.positional.getD "quests")
  saves := .ofText ((a.last? "saves").getD "saves")
  slot := (a.last? "slot").getD SaveStore.autosaveSlot
  isNew := a.has "new"
  seed := (a.last? "seed").bind Text.integer?
  isVerbose := a.has "verbose"

def parse (words : List String) : Except ArgumentFault GameOptions :=
  (Arguments.parse specs true words).map ofArguments

end GameOptions

/-- A game in play. -/
structure Game where
  play : Play
  store : SaveStore
  slot : String
  files : FileTree

namespace Game

/-- The effects of a plan that has been carried out. -/
def planEffects {α : Type} (plan : SavePlan α) : List Effect :=
  Run.printLines plan.before ++ plan.actions.map .change ++ Run.printLines plan.after

/-- Saves a player.  A fault of the slot is reported, any other stops the game. -/
def keep (store : SaveStore) (slot : String) (files : FileTree) (p : Player) : Run :=
  let plan := store.save files slot p "" true
  let done := plan.perform files
  match done.answer with
  | .ok _ => ⟨planEffects plan, done.files, .ok 0⟩
  | .error f =>
    match f.message? with
    | some message => .finish done.files 0 ["[!] " ++ message]
    | none => .crash done.files (.save f)

/-- What comes of the events of a conversation, one after the other. -/
def follow (store : SaveStore) (slot : String) (files : FileTree) : List PlayEvent → Run
  | [] => .finish files 0 []
  | .asked prompt :: rest => (follow store slot files rest).after [.print prompt]
  | .said line :: rest => (follow store slot files rest).after [Run.printLine line]
  | .kept p :: rest =>
    let kept := keep store slot files p
    match kept.ending with
    | .ok _ => (follow store slot kept.files rest).after kept.effects
    | .error c => ⟨kept.effects, kept.files, .error c⟩

/-- How the game goes on after a run, unless something stopped that. -/
def settle (store : SaveStore) (slot : String) (run : Run) (next : Progress) : Run × Option Game :=
  match run.ending, next with
  | .error _, _ => (run, none)
  | .ok _, .goesOn p => (run, some ⟨p, store, slot, run.files⟩)
  | .ok _, .finished _ => (run, none)
  | .ok _, .failed _ f => ({ run with ending := .error (.fault f) }, none)

/-- What comes of a line of input, or of its end: the effects, and the game unless it is over. -/
def turn (g : Game) (line : Option String) : Run × Option Game :=
  match line with
  | none => (.finish g.files 0 [Play.farewell], none)
  | some line =>
    let reply := g.play.answer line
    settle g.store g.slot (follow g.store g.slot g.files reply.events) reply.next

/-- A whole game over the given lines of input. -/
def script (g : Game) (lines : List String) : Run :=
  let (run, next) := g.turn lines.head?
  let prompted := run.after [.print g.play.stage.prompt]
  match lines, next with
  | _ :: rest, some g => (script g rest).after prompted.effects
  | _, _ => prompted
termination_by lines.length

/-- The saved player of a slot, unless a new game is wanted. -/
def savedPlayer (o : GameOptions) (store : SaveStore) (files : FileTree) :
    SavePlan (Option Player) :=
  if o.isNew then { answer := .ok none }
  else
    match store.has files o.slot with
    | .error f => .fail f
    | .ok false => { answer := .ok none }
    | .ok true => store.load files o.slot false

/-- The beginning of a game with loaded content. -/
def enter (o : GameOptions) (files : FileTree) (draws : Draws) (clock : String) (c : Content) :
    Run × Option Game :=
  let store : SaveStore := { base := o.saves, config := c.config, clock }
  match store.create files with
  | .error f => (.crash files (.file f), none)
  | .ok files =>
    let plan := savedPlayer o store files
    let done := plan.perform files
    match done.answer with
    | .error f => (.crash done.files (.save f), none)
    | .ok player =>
      let opening := Play.opening (Session.begin c player draws)
      let run := (follow store o.slot done.files opening.events).after
        (.change (.makeFolders o.saves) :: planEffects plan)
      settle store o.slot run opening.next

/-- Starts a game; content that cannot be loaded ends it with its message. -/
def start (o : GameOptions) (files : FileTree) (draws : Draws) (clock : String) :
    Run × Option Game :=
  match Content.load files o.content with
  | .ok c => enter o files draws clock c
  | .error f =>
    match f.userMessage? with
    | some message => (.finish files 1 [message], none)
    | none => (.crash files (.load f), none)

/-- The command over the given words and lines of input. -/
def run (words : List String) (files : FileTree) (draws : Draws) (clock : String)
    (lines : List String) : Run :=
  match GameOptions.parse words with
  | .error f => .refuse files GameOptions.usage f
  | .ok o =>
    match start o files draws clock with
    | (run, none) => run
    | (run, some g) => (g.script lines).after run.effects

end Game

end Questline
