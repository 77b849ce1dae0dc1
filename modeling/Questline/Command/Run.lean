import Questline.Command.Arguments
import Questline.Content.Load
import Questline.Save.Store

/-!
# Running commands

A command is a function of its arguments and the files.  It has effects, in
order, and ends with an exit code unless something stops it that it does not
deal with.
-/

namespace Questline

inductive Effect where
  | print (text : String)
  /-- A message for the error stream. -/
  | complain (text : String)
  | change (a : FileAction)

/-- What a command does not deal with. -/
inductive Crash where
  | fault (f : Fault)
  | file (f : FileFault)
  | document (f : DocumentFault)
  | load (f : LoadFault)
  | save (f : SaveFault)

def Crash.unusablePath : String := "A path holds a null character."

/-- What a person at the terminal is told about it. -/
def Crash.text : Crash → String
  | fault _ => "The data has an unexpected shape."
  | file f => f.message?.getD unusablePath
  | document (.file f) => f.message?.getD unusablePath
  | document .malformed => "A file holds no valid document."
  | document .undecodable => "A file holds no text."
  | document .hugeInteger => "A file holds a number that is too long."
  | document .tooDeep => "A file holds a document of too many levels."
  | load f => f.userMessage?.getD "The content has an unexpected shape."
  | save f => f.message?.getD "The save cannot be used."

structure Run where
  effects : List Effect
  files : FileTree
  ending : Except Crash Nat

namespace Run

def printLine (line : String) : Effect := .print (line ++ "\n")

def printLines (lines : List String) : List Effect := lines.map printLine

def printed? : Effect → Option String
  | .print text => some text
  | _ => none

/-- Everything that a run has printed. -/
def output (r : Run) : String := String.join (r.effects.filterMap printed?)

/-- The same run after other effects. -/
def after (effects : List Effect) (r : Run) : Run := { r with effects := effects ++ r.effects }

/-- A run that prints and ends. -/
def finish (files : FileTree) (code : Nat) (lines : List String) : Run :=
  ⟨printLines lines, files, .ok code⟩

def crash (files : FileTree) (c : Crash) : Run := ⟨[], files, .error c⟩

def refuse (files : FileTree) (usage : String) (f : ArgumentFault) : Run :=
  ⟨[.complain usage], files, .ok f.code⟩

end Run

/-- A command body that has ended in one way or the other. -/
def liftFaultCrash {α : Type} : Except Fault α → Except Crash α
  | .ok a => .ok a
  | .error f => .error (.fault f)

def liftFileCrash {α : Type} : Except FileFault α → Except Crash α
  | .ok a => .ok a
  | .error f => .error (.file f)

def liftMergeCrash {α : Type} : Except MergeFault α → Except Crash α
  | .ok a => .ok a
  | .error (.file f) => .error (.file f)
  | .error (.fault f) => .error (.fault f)

end Questline
