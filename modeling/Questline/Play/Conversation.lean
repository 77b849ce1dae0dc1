import Questline.Play.Screen
import Questline.Pursuit
import Questline.Text.Case

/-!
# Playing by conversation

A game as a conversation: at every stage there is a prompt, and a line of input
leads to what is said, to players handed over to be kept, and to the next
stage.  The conversation is over when the player quits or the input ends.
-/

namespace Questline

/-- What the next line of input is about. -/
inductive Stage where
  | naming
  /-- Spending the starting points of a new character. -/
  | raising (name : String) (stats : Stats) (points : Nat)
  | improving
  | travelling
  | choosing
  | rolling
  | continuing
deriving DecidableEq

namespace Stage

def prompt : Stage → String
  | naming => "Name your character: "
  | raising _ _ _ => "Raise which stat? "
  | improving => "Improve which stat (" ++ Text.joined "/" Screen.statNames ++ ")? "
  | travelling => "\nWhere to? (location, I=status, L=log, Q=quit) > "
  | choosing => "> "
  | rolling => "Press Enter to roll the die."
  | continuing => "Press Enter to continue."

def ofPhase : Phase → Stage
  | .characterCreation => naming
  | .navigation => travelling
  | .displayStep => choosing
  | .skillCheckRoll => rolling
  | .skillCheckResult => continuing
  | .levelUp => improving

end Stage

inductive PlayEvent where
  | asked (prompt : String)
  | said (line : String)
  /-- A player handed over to be kept. -/
  | kept (p : Player)

structure Play where
  session : Session
  stage : Stage

/-- What a line of input is understood as. -/
inductive Order where
  | perform (a : Session.Action)
  /-- Points of a new character are left to spend. -/
  | spend (name : String) (stats : Stats) (points : Nat) (hints : List String)
  | status
  | log
  | quit
  /-- Nothing to be done. -/
  | ignore (hints : List String)
  /-- A number that cannot be read. -/
  | unreadable

/-- How a conversation goes on. -/
inductive Progress where
  | goesOn (p : Play)
  | finished (s : Session)
  /-- A number that cannot be read or written, or a level that is too high, ends the conversation
  as well. -/
  | failed (s : Session) (f : Fault)

def Progress.session : Progress → Session
  | goesOn p => p.session
  | finished s => s
  | failed s _ => s

/-- An answer that is still to be written out. -/
structure Draft where
  events : List PlayEvent := []
  /-- What is to be said after the events. -/
  lines : List Screen.Line := []
  next : Progress

structure Reply where
  events : List PlayEvent
  next : Progress

/-- The lines are said one after the other, up to the first that cannot be written. -/
def Draft.reply (d : Draft) : Reply where
  events := d.events ++ (d.lines.takeWhile (·.isWritable)).map fun l => .said l.text
  next := if d.lines.all (·.isWritable) then d.next else .failed d.next.session .unreadableNumber

namespace Play

def farewell : String := "\nFarewell."

def defaultName : String := "Traveler"

/-! ## Reading a line -/

/-- Starts the game once the points of a new character are spent. -/
def spending (name : String) (stats : Stats) (hints : List String) : Nat → Order
  | 0 => .perform (.start (some name) fun stat => some (stats.get stat))
  | points + 1 => .spend name stats (points + 1) hints

def raising (name : String) (stats : Stats) (points : Nat) (choice : String) : Order :=
  match Stat.ofName? choice with
  | some stat => spending name (stats.set stat (stats.get stat + 1)) [] (points - 1)
  | none => spending name stats ["Pick one of: " ++ Text.joined ", " Screen.statNames ++ "."] points

def improving (choice : String) : Order :=
  match Stat.ofName? choice with
  | some stat => .perform (.increaseStat stat)
  | none => .ignore ["Pick a valid stat."]

/-- The commands that are understood between actions. -/
def command? : String → Option Order
  | "q" => some .quit
  | "i" => some .status
  | "l" => some .log
  | _ => none

def travelling (choice : String) : Order :=
  if choice.isEmpty then .ignore []
  else (command? (Text.lower choice)).getD (.perform (.navigate choice))

/-- A step without options can be left. -/
def canLeave (s : Session) : Bool := s.current.any fun view => view.options.isEmpty

def isNumber (choice : String) : Bool := !choice.isEmpty && choice.toList.all Text.isDigit

/-- Options are numbered from one. -/
def numbered (choice : String) : Order :=
  match Text.integer? choice with
  | some n => .perform (.selectOption (n - 1))
  | none => .unreadable

def choosing (s : Session) (choice : String) : Order :=
  if choice.isEmpty && canLeave s then .perform .leave
  else
    (command? choice).getD
      (if isNumber choice then numbered choice else .ignore ["Enter a number or I/L/Q."])

/-- What a line of input is understood as, whatever white space is around it. -/
def understand (p : Play) (line : String) : Order :=
  let text := Text.trim line
  match p.stage with
  | .naming =>
    spending (if text.isEmpty then defaultName else text) p.session.config.startingStats []
      p.session.config.startingPoints.toNat
  | .raising name stats points => raising name stats points (Text.lower text)
  | .improving => improving (Text.lower text)
  | .travelling => travelling text
  | .choosing => choosing p.session (Text.lower text)
  | .rolling => .perform (.rollCheck none)
  | .continuing => .perform .continueCheck

/-! ## Answering it -/

/-- What is said on the way in to the stage that a session has come to. -/
def arrivalLines (s : Session) : List Screen.Line :=
  match s.phase with
  | .levelUp => [Screen.levelLine s.config s.player]
  | _ => []

/-- The stage that a session has come to, after some events and lines. -/
def arrive (events : List PlayEvent) (lines : List Screen.Line) (s : Session) : Draft where
  events := events
  lines := lines ++ arrivalLines s
  next := .goesOn ⟨s, .ofPhase s.phase⟩

/-- The beginning of a conversation. -/
def opening (s : Session) : Reply := (arrive [] [] s).reply

/-- The same stage again. -/
def stay (p : Play) (lines : List Screen.Line) : Draft := { lines, next := .goesOn p }

/-- The name of the location, if it is not what has been typed. -/
def locationLines (c : Content) (choice : String) : List String :=
  let location := c.resolveLocation choice
  if location = Content.normalCoordinate choice then [] else ["[" ++ location ++ "]"]

/-- What is said before an action is performed. -/
def linesBefore (c : Content) : Session.Action → List String
  | .navigate choice => locationLines c choice
  | _ => []

/-- What is said of an action that was performed: its outcome, or the displayed step once more. -/
def linesAfter (turn : Turn) : Session.Action → List Screen.Line
  | .start _ _ => []
  | .leave => []
  | .increaseStat _ =>
    turn.session.current.elim [] fun view => Screen.viewLines view turn.session.player
  | _ => turn.outcome.elim [] fun o => Screen.outcomeLines o turn.session.player

def act (p : Play) (a : Session.Action) : Draft :=
  let before := (linesBefore p.session.content a).map .said
  match p.session.attempt a with
  | .ok turn => arrive (before ++ turn.kept.map .kept) (linesAfter turn a) turn.session
  | .error f => { events := before, next := .failed p.session f }

def obey (p : Play) : Order → Draft
  | .perform a => p.act a
  | .spend name stats points hints =>
    stay { p with stage := .raising name stats points }
      (Screen.plain hints ++ [Screen.pointsLine stats points])
  | .status => p.stay (Screen.statusLines p.session.config p.session.player)
  | .log => p.stay (Screen.logLines p.session.player)
  | .quit => { lines := [{ text := farewell }], next := .finished p.session }
  | .ignore hints => p.stay (Screen.plain hints)
  | .unreadable => { next := .failed p.session .unreadableNumber }

def draft (p : Play) (line : String) : Draft := p.obey (p.understand line)

/-- What a line of input leads to. -/
def answer (p : Play) (line : String) : Reply := (p.draft line).reply

/-- What has become of a whole conversation. -/
structure Transcript where
  events : List PlayEvent
  session : Session
  fault : Option Fault := none

/-- The transcript of a conversation that begins with a reply; `rest` is what follows if it goes
on. -/
def followed (r : Reply) (rest : Play → Transcript) : Transcript :=
  match r.next with
  | .goesOn p =>
    let transcript := rest p
    { transcript with events := r.events ++ transcript.events }
  | .finished s => ⟨r.events, s, none⟩
  | .failed s f => ⟨r.events, s, some f⟩

/-- The conversation over the given lines of input. -/
def script (p : Play) : List String → Transcript
  | [] => ⟨[.asked p.stage.prompt, .said farewell], p.session, none⟩
  | line :: rest =>
    let transcript := followed (p.answer line) fun q => q.script rest
    { transcript with events := .asked p.stage.prompt :: transcript.events }

/-- The conversation from its beginning. -/
def whole (s : Session) (lines : List String) : Transcript :=
  followed (opening s) fun p => p.script lines

end Play

end Questline
