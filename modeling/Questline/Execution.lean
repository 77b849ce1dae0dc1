import Questline.Composition
import Questline.Matching
import Questline.Template

/-!
# Execution

What a step or an option does to a player.  A step first applies its grants
and consumptions, names filled in from the variables as they stand, then
settles its variables, then writes its log line, and is shown last.
-/

namespace Questline

/-- The sorted gains and losses of a player, and whether the level rose. -/
structure Mutations where
  added : List String := []
  removed : List String := []
  leveledUp : Bool := false
deriving DecidableEq

def Mutations.merge (a b : Mutations) : Mutations :=
  ⟨a.added ++ b.added, a.removed ++ b.removed, a.leveledUp || b.leveledUp⟩

/-- The elements of `xs`, each as often as it occurs there more than in `ys`. -/
def surplus (xs ys : List String) : List String := ys.foldl List.erase xs

def Mutations.between (config : Config) (before after : Player) : Mutations where
  added := Text.sortTexts (surplus after.tags before.tags)
  removed := Text.sortTexts (surplus before.tags after.tags)
  leveledUp := before.level config < after.level config

/-- One token applied; conditions do nothing. -/
def applyToken (config : Config) (p : Player) (token : String) : Player :=
  let t := Tag.ofToken token
  match t.operator with
  | .grant => p.addTag (Template.render p.vars t.name)
  | .consume => p.removeTag config (Template.render p.vars t.name)
  | _ => p

def applyTokens (config : Config) (tokens : List String) (p : Player) : Player :=
  tokens.foldl (applyToken config) p

/-- The player after the grants and consumptions of a token list, and what changed. -/
def mutate (config : Config) (tokens : List String) (p : Player) : Player × Mutations :=
  let q := applyTokens config tokens p
  (q, .between config p q)

def assignChoice (name : String) (p : Player) : Choice → Player
  | .text s => p.setVariable name s
  | .fields fs =>
    fs.foldl (fun p f => p.setVariable (name ++ "." ++ f.1) f.2) (p.clearVariable name)

/-- One declaration: null clears the variable, no choices leave it, otherwise one is drawn. -/
def settleVariable (name : String) (choices : Option (List Choice)) (p : Player) (draws : Draws) :
    Player × Draws :=
  match choices with
  | none => (p.clearVariable name, draws)
  | some choices =>
    match draws.choose choices with
    | (some choice, draws) => (assignChoice name p choice, draws)
    | (none, draws) => (p, draws)

def settleVariables (vars : Declarations) (p : Player) (draws : Draws) : Player × Draws :=
  vars.foldl (fun (p, draws) v => settleVariable v.1 v.2 p draws) (p, draws)

/-- The log line of a step, filled in. -/
def writeLog (config : Config) (log : Option String) (p : Player) : Player :=
  match log.bind properText? with
  | some line => p.addLogEntry (Template.render p.vars line) config.maxLogEntries
  | none => p

structure Executed where
  player : Player
  text : String
  mutations : Mutations
  draws : Draws

/-- Executes a step on a player. -/
def execute (config : Config) (s : Step) (p : Player) (draws : Draws) : Executed :=
  let (p, mutations) := mutate config s.tags p
  let (p, draws) := settleVariables s.vars p draws
  let p := writeLog config s.log p
  let p := { p with stepsCompleted := p.stepsCompleted + 1 }
  ⟨p, Template.render p.vars s.text, mutations, draws⟩

/-- Choices that the player sees are never gated by internal tags. -/
def optionScope (config : Config) : Scope := ⟨true, config.internalLead⟩

variable {α : Type}

def isAvailable (config : Config) (o : OptionOf α) (counts : Counts) : Bool :=
  conditionsMet (optionScope config) counts o.tags

def missingTokens (config : Config) (o : OptionOf α) (counts : Counts) : List String :=
  unmetConditions (optionScope config) counts o.tags

/-- An option as the player sees it, under its index in the step. -/
structure OptionViewOf (α : Type) where
  index : Nat
  option : OptionOf α
  label : String
  available : Bool
  missing : List String
deriving DecidableEq

abbrev OptionView := OptionViewOf String

def viewOption (config : Config) (p : Player) (index : Nat) (o : OptionOf α) : OptionViewOf α :=
  let missing := missingTokens config o (p.effectiveCounts config)
  ⟨index, o, Template.render p.vars o.label, missing.isEmpty, missing⟩

/-- The options to show: a hidden one only while it is available. -/
def visibleOptions (config : Config) (options : List (OptionOf α)) (p : Player) :
    List (OptionViewOf α) :=
  (options.mapIdx (viewOption config p)).filter fun v => v.available || !v.option.hidden

def grantedNames (tokens : List String) : List String :=
  (tokens.map Tag.ofToken).filterMap fun t => if t.operator = .grant then some t.name else none

def consumedNames (tokens : List String) : List String :=
  (tokens.map Tag.ofToken).filterMap fun t => if t.operator = .consume then some t.name else none

end Questline
