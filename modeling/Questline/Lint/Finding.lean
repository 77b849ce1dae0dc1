import Questline.Content.Record
import Questline.Text.Case

/-!
# Lint findings

What an author may have got wrong in content that can be played.  A finding
names the entry, and the option in it, at which the problem shows.
-/

namespace Questline.Lint

inductive Severity where
  | error
  | warning
  | info
deriving DecidableEq

def Severity.name : Severity → String
  | error => "error"
  | warning => "warning"
  | info => "info"

inductive Problem where
  | notAnObject
  | passTargetBroken (label target : String)
  | failTargetBroken (label target : String)
  | variableElsewhere (name stepId : String)
  | variableUndefined (name : String)
  | variableUnused (name : String)
  | stepUnreferenced (id : String)
  | questGateMissing (id : String)
  | tagMisspelt (tag other : String)
  | patchWithoutTarget
  | patchOnPatch (target : String)
  | patchTargetUnknown (target : String)
deriving DecidableEq

namespace Problem

def severity : Problem → Severity
  | notAnObject => .error
  | passTargetBroken _ _ => .error
  | failTargetBroken _ _ => .error
  | variableElsewhere _ _ => .info
  | variableUndefined _ => .warning
  | variableUnused _ => .info
  | stepUnreferenced _ => .warning
  | questGateMissing _ => .warning
  | tagMisspelt _ _ => .info
  | patchWithoutTarget => .error
  | patchOnPatch _ => .error
  | patchTargetUnknown _ => .warning

def code : Problem → String
  | notAnObject => "invalid_payload"
  | passTargetBroken _ _ => "broken_pass_target"
  | failTargetBroken _ _ => "broken_fail_target"
  | variableElsewhere _ _ => "variable_from_other_step"
  | variableUndefined _ => "undefined_variable"
  | variableUnused _ => "unused_variable"
  | stepUnreferenced _ => "orphan_step"
  | questGateMissing _ => "missing_quest_gate"
  | tagMisspelt _ _ => "tag_typo_candidate"
  | patchWithoutTarget => "patch_missing_target"
  | patchOnPatch _ => "patch_targets_patch"
  | patchTargetUnknown _ => "patch_unknown_target"

/-- A placeholder as an author writes it. -/
def placeholder (name : String) : String := "\x7b\x7b" ++ name ++ "\x7d\x7d"

def message : Problem → String
  | notAnObject => "Content must be an object."
  | passTargetBroken label target =>
    "Option \"" ++ label ++ "\" references non-existent step: " ++ target
  | failTargetBroken label target =>
    "Option \"" ++ label ++ "\" fail target references non-existent step: " ++ target
  | variableElsewhere name stepId =>
    "Variable \"" ++ placeholder name ++ "\" is defined in step \"" ++ stepId ++ "\""
  | variableUndefined name =>
    "Variable \"" ++ placeholder name ++ "\" is used but not defined anywhere"
  | variableUnused name => "Variable \"" ++ name ++ "\" is defined but never used"
  | stepUnreferenced id => "Internal step \"" ++ id ++ "\" is never referenced by any option"
  | questGateMissing id =>
    "Location step \"" ++ id ++ "\" lacks quest gate (add !quest or @q:questname)"
  | tagMisspelt tag other =>
    "Tag \"" ++ tag ++ "\" is similar to \"" ++ other ++ "\" - possible typo?"
  | patchWithoutTarget => "Patch is missing a target step ID"
  | patchOnPatch target => "Patch cannot target another patch: " ++ target
  | patchTargetUnknown target => "Patch targets non-existent step: " ++ target

/-- The other step that has to do with a problem. -/
def relatedStep? : Problem → Option String
  | variableElsewhere _ stepId => some stepId
  | _ => none

end Problem

structure Finding where
  problem : Problem
  stepId : Option String := none
  stepIndex : Option Nat := none
  optionIndex : Option Nat := none
deriving DecidableEq

namespace Finding

def severity (f : Finding) : Severity := f.problem.severity

def spotText (f : Finding) : String :=
  (f.stepIndex.elim "content" fun i => "steps[" ++ toString i ++ "]") ++
    f.optionIndex.elim "" fun i => ".options[" ++ toString i ++ "]"

def text (f : Finding) : String :=
  Text.upper f.severity.name ++ " " ++ f.problem.code ++ ": " ++ f.spotText ++ ": " ++
    f.problem.message

end Finding

/-- The findings in the order of their severity. -/
def ranked (fs : List Finding) : List Finding :=
  [Severity.error, .warning, .info].flatMap fun s => fs.filter fun f => f.severity = s

end Questline.Lint
