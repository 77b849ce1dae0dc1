import Questline.Content.Record
import Questline.Json.PairTable

/-!
# Authored forms

Content is written with shorthand: a label and a target in one text, the name
of a preset in place of a list of options, a patch written as a step, a single
variable choice in place of a list.  Here every form is brought to one record
shape.  What stands at the place of a text is passed on unseen.
-/

namespace Questline

inductive ShapeFault where
  /-- An option that is neither a text nor an object, with the kind it has instead. -/
  | notAnOption (kind : String)
  | fault (f : Fault)
deriving DecidableEq

def ShapeFault.message? : ShapeFault → Option String
  | notAnOption kind => some ("option must be a string or a mapping, got " ++ kind)
  | fault _ => none

abbrev AuthoredOption := OptionOf Json

abbrev AuthoredStep := StepOf Json

abbrev AuthoredPatch := PatchOf Json

/-- The mark between the label and the target of an option in shorthand. -/
def optionMark : List Char := [':', ':']

/-- The texts of a list; anything else has none. -/
def textsOf (v : Json) : List String := (v.asList?.getD []).filterMap Json.asText?

def choiceOf : Json → Option Choice
  | .null => none
  | .obj ms => some (.fields (Table.mapValues Json.describe ms))
  | v => some (.text v.describe)

/-- The choices for one variable: none clears it, a single choice may stand without a list. -/
def choicesOf : Json → Except Fault (Option (List Choice))
  | .null => .ok none
  | .arr xs => .ok (some (xs.filterMap choiceOf))
  | .str s => .ok (some [.text s])
  | .obj ms => .ok (some [.fields (Table.mapValues Json.describe ms)])
  | _ => .error .wrongKind

def declarationsOf (v : Json) : Except Fault Declarations :=
  (v.asObject?.getD []).mapM fun (name, choices) => do return (name, ← choicesOf choices)

/-- An option in shorthand: a label, and after the first mark a target unless nothing follows. -/
def shorthandOption (s : String) : AuthoredOption :=
  match Text.cutAt? optionMark s.toList with
  | none => { label := s }
  | some (label, target) =>
    { label := .ofList label
      passTarget := if target.isEmpty then none else some (.str (.ofList target)) }

def skillsOf : Json → List String
  | .str s => [s]
  | v => textsOf v

def objectOption (v : Json) : AuthoredOption where
  label := ((v.member? "label").getD (.str "")).describe
  tags := textsOf (v.memberOrNull "tags")
  passTarget := (v.memberOrNull "pass").given?
  failTarget := (v.memberOrNull "fail").given?
  skills := skillsOf (v.memberOrNull "skill")
  dc := (v.memberOrNull "dc").asInt?
  hidden := (v.memberOrNull "hidden").isGiven

def optionOf : Json → Except ShapeFault AuthoredOption
  | .str s => .ok (shorthandOption s)
  | .obj ms => .ok (objectOption (.obj ms))
  | v => .error (.notAnOption v.kindWord)

/-- The options of a record: a list, the name of a preset, or none at all. -/
def optionsOf (presets : PairTable) (v : Json) : Except ShapeFault (List AuthoredOption) := do
  if v.isNull then return []
  let source := match v with
    | .str name => ((presets.get? (.str name)).bind Json.given?).getD (.arr [])
    | v => v
  match source.items? with
  | none => throw (.fault .wrongKind)
  | some items => items.mapM optionOf

def textChangeOf (v : Json) : TextChangeOf Json where
  before := (v.member? "prepend").filter (!·.isNull)
  after := (v.member? "append").filter (!·.isNull)
  instead := (v.member? "replace").filter (!·.isNull)

def liftFault {α : Type} : Except Fault α → Except ShapeFault α
  | .ok a => .ok a
  | .error f => .error (.fault f)

/-- The id of a record; what is no object has no place for one. -/
def idOf (v : Json) : Except ShapeFault Json :=
  if v.isObject then
    match v.member? "id" with
    | some id => .ok id
    | none => .error (.fault .missingMember)
  else .error (.fault .wrongKind)

def stepOf (presets : PairTable) (source : Option String) (v : Json) :
    Except ShapeFault AuthoredStep := do
  let id ← idOf v
  let vars ← liftFault (declarationsOf (v.memberOrNull "vars"))
  let options ← optionsOf presets (v.memberOrNull "options")
  return {
    id, vars, options, source
    tags := textsOf (v.memberOrNull "tags")
    text := ((v.memberOrNull "text").given?).getD (.str "")
    log := (v.memberOrNull "log").given? }

/-- What a value denotes when it stands as the id of a patch. -/
def patchTargetOf : Json → Json
  | .str s => .str (patchTarget s)
  | v => v

/-- What a patch is attached to: its target member, or else what its id denotes. -/
def targetOf (v : Json) : Except ShapeFault Json := do
  match v.memberOrNull "target" with
  | .null => return patchTargetOf (← idOf v)
  | target => return target

def patchOf (presets : PairTable) (source : Option String) (v : Json) :
    Except ShapeFault AuthoredPatch := do
  if !v.isObject then throw (.fault .noMembers)
  let target ← targetOf v
  let options ← optionsOf presets (v.memberOrNull "options")
  let vars ← liftFault (declarationsOf (v.memberOrNull "vars"))
  return {
    target, options, vars, source
    tags := textsOf (v.memberOrNull "tags")
    text := textChangeOf (v.memberOrNull "text") }

/-- The members that a patch step passes on when it becomes a patch record. -/
def patchMembers : List String := ["tags", "text", "options", "vars"]

/-- Those of them that count as given. -/
def keptMembers (v : Json) : Table Json :=
  patchMembers.filterMap fun key =>
    ((v.member? key).bind Json.given?).map fun member => (key, member)

/-- A step with a patch id as a patch record. -/
def patchRecordOf (v : Json) : Except ShapeFault (Table Json) := do
  return ("target", patchTargetOf (← idOf v)) :: keptMembers v

/-- The record of a step whose texts are texts. -/
def AuthoredStep.settle (s : AuthoredStep) : Except ShapeFault Step :=
  match s.convert? Json.asText? with
  | some s => .ok s
  | none => .error (.fault .wrongKind)

def AuthoredPatch.settle (p : AuthoredPatch) : Except ShapeFault StepPatch :=
  match p.convert? Json.asText? with
  | some p => .ok p
  | none => .error (.fault .wrongKind)

end Questline
