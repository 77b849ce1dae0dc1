import Questline.Content.Authored
import Questline.Content.Payload
import Questline.Files.Document

/-!
# Merging quest files

A directory of quest files becomes one payload: rules and locations from files
of their own, then the steps of all quest files in the order of their names.
Steps with a patch id become patch records, option presets of equal name must
agree, and the report names whatever does not fit together.
-/

namespace Questline

/-- What does not fit together in a directory. -/
inductive MergeProblem where
  | unreadable (file why : String)
  | notAQuest (file : String)
  | presetConflict (file preset : String)
  | patchOnPatch (file target : String)
  | patchTargetUnknown (file target : String)
deriving DecidableEq

namespace MergeProblem

def message : MergeProblem → String
  | unreadable file why => file ++ ": could not be read (" ++ why ++ ")."
  | notAQuest file => file ++ ": quest file must be an object with a 'steps' list."
  | presetConflict file preset =>
    file ++ ": option preset '" ++ preset ++ "' conflicts with existing definition."
  | patchOnPatch file target =>
    "Patch in " ++ file ++ " targets another patch: " ++ patchLead ++ target
  | patchTargetUnknown file target =>
    "Patch in " ++ file ++ " targets non-existent step: " ++ target

/-- A patch without its step is left alone, everything else stops the merge. -/
def isWarning : MergeProblem → Bool
  | patchTargetUnknown _ _ => true
  | _ => false

end MergeProblem

/-- A quest file that has been taken in. -/
structure QuestFile where
  name : String
  title : String
  steps : Nat
deriving DecidableEq

structure MergeReport where
  files : List QuestFile := []
  errors : List MergeProblem := []
  warnings : List MergeProblem := []
  /-- The ids under which several steps stand. -/
  sharedIds : List Json := []

def MergeReport.errorTexts (r : MergeReport) : List String := r.errors.map MergeProblem.message

def MergeReport.warningTexts (r : MergeReport) : List String := r.warnings.map MergeProblem.message

structure Merge where
  payload : Payload
  report : MergeReport

/-- Why files cannot be merged at all. -/
inductive MergeFault where
  | file (f : FileFault)
  | fault (f : Fault)
deriving DecidableEq

namespace Merge

def lift {α : Type} : Except Fault α → Except MergeFault α
  | .ok a => .ok a
  | .error f => .error (.fault f)

/-- A patch record with the file it comes from. -/
structure FiledPatch where
  file : String
  target : String
  record : Table Json

/-- What has been taken in so far. -/
structure Gathered where
  steps : List Json := []
  patches : List FiledPatch := []
  presets : PairTable := []
  files : List QuestFile := []
  errors : List MergeProblem := []

def configFile : String := "_config.json"

def locationsFile : String := "_locations.json"

/-- Quest files end in `.json`; a leading underscore marks files of another kind. -/
def isQuestName (name : String) : Bool :=
  (Text.afterLead? ".json".toList.reverse name.toList.reverse).isSome && !Text.leads "_" name

def questNames (files : FileTree) (directory : FilePath) : List String :=
  (files.children directory).filter fun name =>
    isQuestName name && files.isFile (directory.child name)

/-- The value of a file, or the problem that it cannot be read. -/
def readOr (files : FileTree) (directory : FilePath) (name : String) :
    Except MergeFault (Except MergeProblem Json) :=
  match files.readValue (directory.child name) with
  | .ok v => .ok (.ok v)
  | .error f => (lift f.report).map fun why => .error (.unreadable name why)

/-- The value of a file that may be missing; one that cannot be read counts as empty. -/
def readSetting (files : FileTree) (directory : FilePath) (name : String) :
    Except MergeFault (Json × List MergeProblem) := do
  match files.probe (directory.child name) with
  | .error f => throw (.file f)
  | .ok none => return (.obj [], [])
  | .ok (some _) =>
    match ← readOr files directory name with
    | .ok v => return (v, [])
    | .error p => return (.obj [], [p])

/-- The presets of a quest file: those at the top, then those of preset entries. -/
def filePresets (quest : Json) (entries : List Json) : Except Fault PairTable := do
  let own ← PairTable.ofJson (((quest.memberOrNull "option_presets").given?).getD (.obj []))
  return Payload.addPresets own entries

/-- A preset is added unless one of its name is there already, which must then be alike. -/
def addPreset (file : String) (g : Gathered) (preset : Json × Json) : Gathered :=
  match g.presets.get? preset.1 with
  | none => { g with presets := g.presets ++ [preset] }
  | some known =>
    if known.alike preset.2 then g
    else { g with errors := g.errors ++ [.presetConflict file preset.1.describe] }

/-- An entry with a given id is a step, or a patch if the id says so; others are passed over. -/
def addEntry (file : String) (g : Gathered) (entry : Json) : Gathered :=
  match (entry.memberOrNull "id").given? with
  | none => g
  | some (.str id) =>
    if isPatchId id then
      let target := patchTarget id
      { g with patches := g.patches ++
        [⟨file, target, ("target", .str target) :: keptMembers entry⟩] }
    else { g with steps := g.steps ++ [entry] }
  | some _ => { g with steps := g.steps ++ [entry] }

def addQuest (file : String) (g : Gathered) (quest : Json) : Except Fault Gathered := do
  match (quest.memberOrNull "steps").asList? with
  | none => return { g with errors := g.errors ++ [.notAQuest file] }
  | some entries =>
    let presets ← filePresets quest entries
    let g := entries.foldl (addEntry file) (presets.foldl (addPreset file) g)
    let title := (((quest.memberOrNull "name").given?).map Json.describe).getD file
    return { g with files := g.files ++ [⟨file, title, entries.length⟩] }

def addFile (files : FileTree) (directory : FilePath) (g : Gathered) (name : String) :
    Except MergeFault Gathered := do
  match ← readOr files directory name with
  | .ok quest => lift (addQuest name g quest)
  | .error p => return { g with errors := g.errors ++ [p] }

def idsOf (steps : List Json) : List Json := steps.map fun step => step.memberOrNull "id"

def patchProblem? (ids : List Json) (p : FiledPatch) : Option MergeProblem :=
  if isPatchId p.target then some (.patchOnPatch p.file p.target)
  else if ids.contains (.str p.target) then none
  else some (.patchTargetUnknown p.file p.target)

/-- The values that occur again further on, each once, in the order of their second occurrence. -/
def repeated (seen found : List Json) : List Json → List Json
  | [] => found
  | id :: rest =>
    let isIn (ids : List Json) := ids.any (id.alikeWithin true)
    let again := isIn seen && !isIn found
    repeated (id :: seen) (if again then found ++ [id] else found) rest

/-- The members of a payload that are left out when there is nothing in them. -/
def member (key : String) (v : Json) : Table Json := if v.isGiven then [(key, v)] else []

def payloadOf (config locations : Json) (g : Gathered) : Payload where
  value :=
    .obj ([("config", config), ("steps", .arr g.steps)] ++ member "locations" locations ++
      member "option_presets" (.obj g.presets.written) ++
      member "patches" (.arr (g.patches.map fun p => .obj p.record)))
  presets := g.presets

/-- The payload and the report once all files have been taken in.  Ids are looked up, which a list
or an object cannot be. -/
def finish (config locations : Json) (errors : List MergeProblem) (g : Gathered) :
    Except Fault Merge := do
  let ids := idsOf g.steps
  if ids.any Json.isContainer then throw .wrongKind
  let problems := g.patches.filterMap (patchProblem? ids)
  return {
    payload := payloadOf config locations g
    report :=
      { files := g.files
        errors := errors ++ g.errors ++ problems.filter fun p => !p.isWarning
        warnings := problems.filter fun p => p.isWarning
        sharedIds := repeated [] [] ids } }

end Merge

open Merge in
/-- The quest files of a directory as one payload. -/
def mergeDirectory (files : FileTree) (directory : FilePath) : Except MergeFault Merge := do
  let (config, configErrors) ← readSetting files directory configFile
  let (locations, locationErrors) ← readSetting files directory locationsFile
  let gathered ← (questNames files directory).foldlM (addFile files directory) {}
  lift (finish config locations (configErrors ++ locationErrors) gathered)

end Questline
