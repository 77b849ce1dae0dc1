import Questline.Content.Authored
import Questline.Content.Library
import Questline.Content.Validation

/-!
# Building content

A payload without errors becomes content: its steps and patches in the order
of the step list, then the patch records.  A payload with errors is refused
with all of them.
-/

namespace Questline

/-- Why content could not be had. -/
inductive ContentFault where
  /-- The payload has errors. -/
  | invalid (errors : List String)
  /-- The files of a directory do not fit together. -/
  | unmergeable (directory : String) (errors : List String)
  /-- A record has a shape that the checks did not rule out. -/
  | shape (f : ShapeFault)
  | fault (f : Fault)

namespace ContentFault

def listed (heading : String) (errors : List String) : String :=
  heading ++ ":\n- " ++ Text.joined "\n- " errors

def message? : ContentFault → Option String
  | invalid errors => some (listed "Invalid quest content" errors)
  | unmergeable directory errors => some (listed ("Could not merge " ++ directory) errors)
  | shape f => f.message?
  | fault _ => none

/-- Whether content was looked at and refused. -/
def isRefusal : ContentFault → Bool
  | invalid _ => true
  | unmergeable _ _ => true
  | _ => false

end ContentFault

def liftShape {α : Type} : Except ShapeFault α → Except ContentFault α
  | .ok a => .ok a
  | .error f => .error (.shape f)

def liftContent {α : Type} : Except Fault α → Except ContentFault α
  | .ok a => .ok a
  | .error f => .error (.fault f)

namespace Content

/-- An entry of the step list is a patch if its id says so. -/
def isPatchEntry (v : Json) : Bool := (v.memberOrNull "id").asText?.any isPatchId

def stepRecords (payload : Payload) : List Json :=
  payload.entries.filter fun v => !Payload.isPresetEntry v && !isPatchEntry v

def patchRecords (payload : Payload) : List Json :=
  (payload.entries.filter fun v => !Payload.isPresetEntry v && isPatchEntry v) ++
    ((payload.value.memberOrNull "patches").asList?).getD []

/-- The step of a record. -/
def readStep (presets : PairTable) (source : Option String) (v : Json) :
    Except ShapeFault Step := do
  AuthoredStep.settle (← stepOf presets source v)

/-- The patch of a record. -/
def readPatch (presets : PairTable) (source : Option String) (v : Json) :
    Except ShapeFault StepPatch := do
  AuthoredPatch.settle (← patchOf presets source v)

/-- The content of a payload that has been checked.  Patches are looked up by their target, which a
list or an object cannot be. -/
def assemble (source : Option String) (payload : Payload) : Except ContentFault Content := do
  let presets := payload.presets
  let steps ← (stepRecords payload).mapM fun v => liftShape (readStep presets source v)
  let patches ← (patchRecords payload).mapM fun v => liftShape (readPatch presets source v)
  let config ← liftContent (Config.ofJson (payload.value.memberOrNull "config"))
  if patches.any fun p => p.target.isContainer then throw (.fault .wrongKind)
  let locations := locationsOf (((payload.value.memberOrNull "locations").asObject?).getD [])
  return { steps, patches, config, locations, presets }

/-- The content of a payload. -/
def build (source : Option String) (payload : Payload) : Except ContentFault Content := do
  let report ← liftContent (validate payload)
  if report.errors.isEmpty then assemble source payload
  else throw (.invalid report.errorTexts)

end Content

end Questline
