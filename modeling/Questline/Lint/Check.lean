import Questline.Content.Authored
import Questline.Content.Validation
import Questline.Lint.Finding
import Questline.Player
import Questline.Template
import Questline.Text.EditDistance

/-!
# Lint checks

The checks read a payload as its author wrote it, whether or not it is valid.
An entry is a step or a patch with its position in the step list; patch records
follow the steps.  What cannot be looked at for its shape stops the checks.
-/

namespace Questline.Lint

structure Entry where
  index : Nat
  id : String
  record : Json

namespace Entry

def isPatch (e : Entry) : Bool := isPatchId e.id

def finding (e : Entry) (p : Problem) : Finding := ⟨p, some e.id, some e.index, none⟩

def optionFinding (e : Entry) (option : Nat) (p : Problem) : Finding :=
  ⟨p, some e.id, some e.index, some option⟩

/-- The options of an entry; none if they are of no shape for options. -/
def options (presets : PairTable) (e : Entry) : List AuthoredOption :=
  match optionsOf presets (e.record.memberOrNull "options") with
  | .ok options => options
  | .error _ => []

def declared (e : Entry) : List String :=
  Table.keys (((e.record.memberOrNull "vars").asObject?).getD [])

/-- The names that the text, the log line and the option labels of an entry fill in. -/
def used (presets : PairTable) (e : Entry) : List String :=
  let own := ["text", "log"].filterMap fun key => (e.record.memberOrNull key).asText?
  (own ++ (e.options presets).map (·.label)).flatMap Template.names

/-- The tag tokens of an entry. -/
def tokens (e : Entry) : Except Fault (List String) := do
  let given ← (((e.record.memberOrNull "tags").given?).getD (.arr [])).itemsOf
  return given.filterMap Json.asText?

end Entry

def listed (payload : Json) (key : String) : Except Fault (List Json) :=
  (((payload.memberOrNull key).given?).getD (.arr [])).itemsOf

def stepEntry? (index : Nat) (v : Json) : Option Entry :=
  if Payload.isPresetEntry v then none
  else ((v.memberOrNull "id").asText?).map fun id => ⟨index, id, v⟩

def patchEntry? (index : Nat) (v : Json) : Option Entry :=
  if v.isObject then
    let target := ((v.memberOrNull "target").given?).elim "" Json.describe
    some ⟨index, patchLead ++ target, v⟩
  else none

/-- The entries of a payload. -/
def entriesOf (payload : Json) : Except Fault (List Entry) := do
  let steps ← listed payload "steps"
  let patches ← listed payload "patches"
  return steps.zipIdx.filterMap (fun (v, i) => stepEntry? i v) ++
    patches.zipIdx.filterMap fun (v, i) => patchEntry? (steps.length + i) v

/-- What the checks look at. -/
structure Subject where
  entries : List Entry
  presets : PairTable
  /-- The names and the coordinates of locations. -/
  places : List String

namespace Subject

/-- The ids that an option or a patch can lead to. -/
def stepIds (s : Subject) : List String :=
  (s.entries.filter fun e => !e.isPatch).map (·.id)

/-- A step that players can travel to: a named place, or any id without an underscore. -/
def isPlace (s : Subject) (id : String) : Bool := s.places.contains id || !id.toList.contains '_'

/-- Whether a target is the id of a step. -/
def leadsToStep (s : Subject) (target : Json) : Bool :=
  target.asText?.any fun id => s.stepIds.contains id

def targets (s : Subject) : List Json :=
  s.entries.flatMap fun e =>
    (e.options s.presets).flatMap fun o => o.passTarget.toList ++ o.failTarget.toList

/-! ## Targets -/

def brokenTarget (s : Subject) (problem : String → Problem) (target : Option Json) : List Problem :=
  match target with
  | none => []
  | some target => if s.leadsToStep target then [] else [problem target.describe]

def brokenTargets (s : Subject) : List Finding :=
  s.entries.flatMap fun e =>
    (e.options s.presets).zipIdx.flatMap fun (o, i) =>
      (s.brokenTarget (.passTargetBroken o.label) o.passTarget ++
        s.brokenTarget (.failTargetBroken o.label) o.failTarget).map (e.optionFinding i)

def isReferenced (s : Subject) (id : String) : Bool := s.targets.contains (.str id)

def unreferencedSteps (s : Subject) : List Finding :=
  (s.entries.filter fun e => !e.isPatch && !s.isPlace e.id && !s.isReferenced e.id).map fun e =>
    e.finding (.stepUnreferenced e.id)

def patchProblem? (s : Subject) (target : String) : Option Problem :=
  if target.isEmpty then some .patchWithoutTarget
  else if isPatchId target then some (.patchOnPatch target)
  else if s.stepIds.contains target then none
  else some (.patchTargetUnknown target)

def patchTargets (s : Subject) : List Finding :=
  (s.entries.filter Entry.isPatch).filterMap fun e =>
    (s.patchProblem? (patchTarget e.id)).map e.finding

/-! ## Variables -/

/-- Variables that are there without a declaration. -/
def builtinVariables : List String := [Player.characterName]

/-- The part of a name before the first point. -/
def baseName (name : String) : String := .ofList (name.toList.takeWhile (· != '.'))

/-- The entry that declares a variable first. -/
def firstDeclaration? (s : Subject) (name : String) : Option Entry :=
  s.entries.find? fun e => e.declared.contains name

def isKnown (e : Entry) (name : String) : Bool :=
  e.declared.contains name || e.declared.contains (baseName name) ||
    builtinVariables.contains (baseName name)

/-- What is to be said of a name that the entry itself does not declare. -/
def undeclared (s : Subject) (e : Entry) (name : String) : Problem :=
  match s.firstDeclaration? (baseName name) with
  | some other =>
    if other.index = e.index then .variableUndefined name else .variableElsewhere name other.id
  | none => .variableUndefined name

/-- The first of the names with each base. -/
def firstOfBase (seen : List String) : List String → List String
  | [] => []
  | name :: rest =>
    if seen.contains (baseName name) then firstOfBase seen rest
    else name :: firstOfBase (baseName name :: seen) rest

def undefinedVariables (s : Subject) : List Finding :=
  s.entries.flatMap fun e =>
    ((firstOfBase [] (e.used s.presets)).filter fun name => !isKnown e name).map fun name =>
      e.finding (s.undeclared e name)

def unusedVariables (s : Subject) : List Finding :=
  s.entries.flatMap fun e =>
    let used := (e.used s.presets).map baseName
    (Text.sortTexts (e.declared.filter fun name => !used.contains name)).map fun name =>
      e.finding (.variableUnused name)

/-! ## Tags -/

/-- A condition that keeps a location step to, or out of, a quest. -/
def isQuestGate (t : Tag) : Bool :=
  match t.operator with
  | .forbid => t.name == "quest"
  | .require => Text.leads "q:" t.name
  | .prefer => Text.leads "q:" t.name
  | _ => false

/-- Looks no further than the first gate. -/
def hasQuestGate : List String → Except Fault Bool
  | [] => .ok false
  | token :: rest => do
    if isQuestGate (← Tag.read token) then return true else hasQuestGate rest

def questGate (s : Subject) (e : Entry) : Except Fault (List Finding) := do
  if e.isPatch || !s.isPlace e.id then return []
  if ← hasQuestGate (← e.tokens) then return []
  return [e.finding (.questGateMissing e.id)]

def questGates (s : Subject) : Except Fault (List Finding) := do
  return (← s.entries.mapM s.questGate).flatten

/-- The names of the tags of an entry. -/
def tagNames (e : Entry) : Except Fault (List (String × Entry)) := do
  (← e.tokens).mapM fun token => do return ((← Tag.read token).name, e)

/-- Short names are close at one edit, longer ones at two. -/
def isClose (tag other : String) : Bool :=
  let distance := Text.editDistance tag other
  distance == 1 || (distance == 2 && 6 < max tag.length other.length)

/-- A tag that occurs once and is close to one that occurs more often. -/
def misspellings (uses : List (String × Entry)) : List Finding :=
  let names := uses.map (·.1)
  let common := names.eraseDups.filter fun name => 1 < names.count name
  (uses.filter fun u => names.count u.1 = 1).filterMap fun (tag, e) =>
    (common.find? (isClose tag)).map fun other => e.finding (.tagMisspelt tag other)

def tagSpelling (s : Subject) : Except Fault (List Finding) := do
  return misspellings (← s.entries.mapM tagNames).flatten

end Subject

/-- All findings, before they are ranked.  Targets are looked up, which a list or an object cannot
be. -/
def findings (s : Subject) : Except Fault (List Finding) := do
  if s.targets.any Json.isContainer then throw .wrongKind
  let gates ← s.questGates
  let spelling ← s.tagSpelling
  return s.brokenTargets ++ s.undefinedVariables ++ s.unusedVariables ++ s.unreferencedSteps ++
    gates ++ spelling ++ s.patchTargets

/-- The names that a table of locations gives rise to. -/
def placesOf (locations : Table Json) : Except Fault (List String) :=
  if locations.any fun p => p.2.isContainer then .error .wrongKind
  else .ok (locations.values.filterMap Json.asText? ++ locations.keys)

/-- The findings for a payload; its own locations count unless others are given. -/
def lint (payload : Payload) (locations : Option (Table Json)) : Except Fault (List Finding) := do
  if !payload.value.isObject then return [{ problem := .notAnObject }]
  let entries ← entriesOf payload.value
  let own := ((payload.value.memberOrNull "locations").asObject?).getD []
  let places ← placesOf (locations.getD own)
  return ranked (← findings ⟨entries, payload.presets, places⟩)

end Questline.Lint
