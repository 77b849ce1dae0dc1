import Questline.Content.Payload
import Questline.Content.Place
import Questline.Content.Record
import Questline.Text.Case

/-!
# Validation of payloads

One pass over a raw payload.  Every check returns its findings in order:
problems, the targets of options and patches, which are looked up once all
steps are known, and tag tokens whose number cannot be read, which stop the
validation.  Errors keep a payload from being loaded, warnings do not.
-/

namespace Questline

/-- What can be wrong with a payload. -/
inductive Problem where
  | contentKind
  | stepsMissing
  | configKind
  | locationsKind
  | presetKind
  | entryKind
  | idMissing
  | textMissing
  | logKind
  | patchesKind
  | patchTargetMissing
  | patchOnPatch (target : String)
  | tagsKind
  | tagNameMissing (token : String)
  | baseConditionMisplaced (token : String)
  | varsKind
  | varNameBlank
  | varValuesKind
  | varChoiceKind
  | shorthandBlank
  | optionKind
  | labelMissing
  | passKind
  | failKind
  | skillKind
  | dcMissing
  | failMissing
  | dcIdle
  | hiddenKind
  | presetUnknown (name : String)
  | optionsKind
  | patchTextKind
  | textChangeUnknown (key : String)
  | textChangeKind (key : String)
  | targetUnknown (target : String)
  | patchTargetCase (target : String)
  | patchTargetUnknown (target : String)
deriving DecidableEq

namespace Problem

def message : Problem → String
  | contentKind => "content data must be an object."
  | stepsMissing => "must include a 'steps' list."
  | configKind => "'config' must be an object."
  | locationsKind => "'locations' must map coordinates to names."
  | presetKind => "preset must be a list of options."
  | entryKind => "must be an object."
  | idMissing => "is missing a valid 'id'."
  | textMissing => "requires a string 'text'."
  | logKind => "'log' must be a string."
  | patchesKind => "'patches' must be a list."
  | patchTargetMissing => "patch is missing a target step id."
  | patchOnPatch target => "patch cannot target another patch: " ++ target ++ "."
  | tagsKind => "'tags' must be a list of strings."
  | tagNameMissing token => "tag token '" ++ token ++ "' has no tag name."
  | baseConditionMisplaced token =>
    "base-step condition '" ++ token ++ "' is only valid on patches."
  | varsKind => "'vars' must be an object mapping names to value lists."
  | varNameBlank => "variable names must be non-empty strings."
  | varValuesKind => "variable values must be a list, a string or null."
  | varChoiceKind => "variable choices must be strings or objects of string fields."
  | shorthandBlank => "option shorthand must be a non-empty string."
  | optionKind => "option must be a string or an object."
  | labelMissing => "option requires a string 'label'."
  | passKind => "'pass' must be a step id or null."
  | failKind => "'fail' must be a step id."
  | skillKind => "'skill' must be a name or a list of names."
  | dcMissing => "skill checks require an integer 'dc'."
  | failMissing => "skill checks require a 'fail' target."
  | dcIdle => "'dc' has no effect without a 'skill'."
  | hiddenKind => "'hidden' must be a boolean."
  | presetUnknown name => "unknown option preset '" ++ name ++ "'."
  | optionsKind => "'options' must be a list or a preset name."
  | patchTextKind => "patch 'text' must be an object with prepend/append/replace."
  | textChangeUnknown key => "unsupported text modification '" ++ key ++ "'."
  | textChangeKind key => "'" ++ key ++ "' must be a string."
  | targetUnknown target => "targets unknown step '" ++ target ++ "'."
  | patchTargetCase target =>
    "patch target '" ++ target ++ "' differs from the step id only by case."
  | patchTargetUnknown target => "patch targets non-existent step '" ++ target ++ "'."

/-- Only problems that leave the content playable are warnings. -/
def isWarning : Problem → Bool
  | dcIdle => true
  | targetUnknown _ => true
  | patchTargetCase _ => true
  | patchTargetUnknown _ => true
  | _ => false

end Problem

/-- A spot of the payload: its place, and how an author would call it. -/
structure Spot where
  place : Place
  context : String

structure Issue where
  spot : Spot
  problem : Problem

def Issue.text (i : Issue) : String :=
  i.spot.place.text ++ ": " ++
    (if i.spot.context.isEmpty then "" else i.spot.context ++ ": ") ++ i.problem.message

/-- A target to be looked up once all steps are known. -/
structure Link where
  spot : Spot
  target : String

inductive Finding where
  | issue (i : Issue)
  | optionTarget (l : Link)
  | patchTarget (l : Link)
  | unreadableTag

namespace Finding

def issue? : Finding → Option Issue
  | issue i => some i
  | _ => none

def optionTarget? : Finding → Option Link
  | optionTarget l => some l
  | _ => none

def patchTarget? : Finding → Option Link
  | patchTarget l => some l
  | _ => none

def isUnreadableTag : Finding → Bool
  | unreadableTag => true
  | _ => false

/-- Presets are checked without looking up the targets of their options. -/
def withoutTargets (fs : List Finding) : List Finding :=
  fs.filter fun f => f.optionTarget?.isNone

end Finding

namespace Validation

def problem (spot : Spot) (p : Problem) : List Finding := [.issue ⟨spot, p⟩]

def require (holds : Bool) (spot : Spot) (p : Problem) : List Finding :=
  if holds then [] else problem spot p

def Spot.at (spot : Spot) (part : PlacePart) : Spot := { spot with place := spot.place ++ [part] }

def Spot.member (spot : Spot) (name : String) : Spot := Spot.at spot (.name name)

def Spot.element (spot : Spot) (index : Nat) : Spot := Spot.at spot (.position index)

/-- A text with something other than white space in it. -/
def isProperText (v : Json) : Bool := v.asText?.any fun s => !Text.isBlankText s

def isTextList (v : Json) : Bool := v.asList?.any fun xs => xs.all fun x => x.asText?.isSome

/-- Every element of a list checked with its position. -/
def each (xs : List Json) (check : Nat → Json → List Finding) : List Finding :=
  xs.zipIdx.flatMap fun (x, i) => check i x

def checkTag (allowBase : Bool) (spot : Spot) (token : String) : List Finding :=
  if Tag.isReadable token then
    let t := Tag.ofToken token
    if t.name.isEmpty then problem spot (.tagNameMissing token)
    else if t.isBaseCondition && !allowBase then problem spot (.baseConditionMisplaced token)
    else []
  else [.unreadableTag]

def checkTags (allowBase : Bool) (spot : Spot) (v : Json) : List Finding :=
  if v.isNull then []
  else if isTextList v then
    each (v.asList?.getD []) fun i x =>
      checkTag allowBase (Spot.element spot i) (x.asText?.getD "")
  else problem spot .tagsKind

/-- A choice is a text or an object of texts. -/
def isChoice : Json → Bool
  | .str _ => true
  | .obj ms => ms.all fun p => p.2.asText?.isSome
  | _ => false

def checkVar (spot : Spot) (name : String) (v : Json) : List Finding :=
  if Text.isBlankText name then problem spot .varNameBlank
  else
    match v with
    | .null => []
    | .str _ => []
    | .arr xs =>
      each xs fun i x =>
        require (isChoice x) (Spot.element (Spot.member spot name) i) .varChoiceKind
    | _ => problem (Spot.member spot name) .varValuesKind

def checkVars (spot : Spot) (v : Json) : List Finding :=
  match v with
  | .null => []
  | .obj ms => ms.flatMap fun (name, choices) => checkVar spot name choices
  | _ => problem spot .varsKind

def checkShorthand (spot : Spot) (s : String) : List Finding :=
  if Text.isBlankText s then problem spot .shorthandBlank
  else
    match Text.cutAt? [':', ':'] s.toList with
    | some (_, target) =>
      if target.isEmpty then [] else [.optionTarget ⟨spot, .ofList target⟩]
    | none => []

/-- A target is a proper text, which is then looked up, or missing. -/
def checkTarget (spot : Spot) (p : Problem) (v : Json) : List Finding :=
  if v.isNull then []
  else if isProperText v then [.optionTarget ⟨spot, v.asText?.getD ""⟩]
  else problem spot p

/-- Names of skills: one, or a list with at least one. -/
def isSkillNames (v : Json) : Bool :=
  match v with
  | .str s => !Text.isBlankText s
  | .arr xs => !xs.isEmpty && xs.all isProperText
  | _ => false

def checkSkill (spot : Spot) (v : Json) : List Finding :=
  let dc := v.memberOrNull "dc"
  if (v.memberOrNull "skill").isNull then
    require dc.isNull (Spot.member spot "dc") .dcIdle
  else
    require (isSkillNames (v.memberOrNull "skill")) (Spot.member spot "skill") .skillKind ++
      require dc.asInt?.isSome (Spot.member spot "dc") .dcMissing ++
      require (!(v.memberOrNull "fail").isNull) (Spot.member spot "fail") .failMissing

def checkObjectOption (spot : Spot) (v : Json) : List Finding :=
  let hidden := v.memberOrNull "hidden"
  require (v.memberOrNull "label").asText?.isSome (Spot.member spot "label") .labelMissing ++
    checkTags false (Spot.member spot "tags") (v.memberOrNull "tags") ++
    checkTarget (Spot.member spot "pass") .passKind (v.memberOrNull "pass") ++
    checkTarget (Spot.member spot "fail") .failKind (v.memberOrNull "fail") ++
    checkSkill spot v ++
    require (hidden.isNull || hidden.asBool?.isSome) (Spot.member spot "hidden") .hiddenKind

def checkOption (spot : Spot) (v : Json) : List Finding :=
  match v with
  | .str s => checkShorthand spot s
  | .obj ms => checkObjectOption spot (.obj ms)
  | _ => problem spot .optionKind

def checkOptions (presets : PairTable) (spot : Spot) (v : Json) : List Finding :=
  match v with
  | .null => []
  | .str name => require (presets.get? (.str name)).isSome spot (.presetUnknown name)
  | .arr xs =>
    each xs fun i x =>
      checkOption ⟨(Spot.element spot i).place, spot.context ++ ", option " ++ toString (i + 1)⟩ x
  | _ => problem spot .optionsKind

def textChangeKeys : List String := ["prepend", "append", "replace"]

def checkTextChange (spot : Spot) (v : Json) : List Finding :=
  match v with
  | .null => []
  | .obj ms => ms.flatMap fun (key, x) =>
    if textChangeKeys.contains key then
      require x.asText?.isSome (Spot.member spot key) (.textChangeKind key)
    else problem (Spot.member spot key) (.textChangeUnknown key)
  | _ => problem spot .patchTextKind

/-- A patch, whose target stands at the member `key` of the spot. -/
def checkPatch (presets : PairTable) (spot : Spot) (key : String) (target v : Json) :
    List Finding :=
  let targetSpot := Spot.member spot key
  if !isProperText target then problem targetSpot .patchTargetMissing
  else
    let id := target.asText?.getD ""
    if isPatchId id then problem targetSpot (.patchOnPatch id)
    else
      .patchTarget ⟨targetSpot, id⟩ ::
        (checkTags true (Spot.member spot "tags") (v.memberOrNull "tags") ++
          checkTextChange (Spot.member spot "text") (v.memberOrNull "text") ++
          checkOptions presets (Spot.member spot "options") (v.memberOrNull "options") ++
          checkVars (Spot.member spot "vars") (v.memberOrNull "vars"))

def checkPlainStep (presets : PairTable) (spot : Spot) (v : Json) : List Finding :=
  let log := v.memberOrNull "log"
  require (v.memberOrNull "text").asText?.isSome (Spot.member spot "text") .textMissing ++
    require (log.isNull || log.asText?.isSome) (Spot.member spot "log") .logKind ++
    checkTags false (Spot.member spot "tags") (v.memberOrNull "tags") ++
    checkVars (Spot.member spot "vars") (v.memberOrNull "vars") ++
    checkOptions presets (Spot.member spot "options") (v.memberOrNull "options")

def entryPlace (list : String) (i : Nat) : Place := [.name list, .position i]

def checkStepEntry (presets : PairTable) (i : Nat) (v : Json) : List Finding :=
  let spot : Spot := ⟨entryPlace "steps" i, "Step entry " ++ toString (i + 1)⟩
  if Payload.isPresetEntry v then []
  else if !v.isObject then problem spot .entryKind
  else
    let id := v.memberOrNull "id"
    if !isProperText id then problem (Spot.member spot "id") .idMissing
    else
      let name := id.asText?.getD ""
      if isPatchId name then
        checkPatch presets ⟨spot.place, "Patch '" ++ name ++ "'"⟩ "id"
          (.str (patchTarget name)) v
      else checkPlainStep presets ⟨spot.place, "Step '" ++ name ++ "'"⟩ v

def checkPatchEntry (presets : PairTable) (i : Nat) (v : Json) : List Finding :=
  let spot : Spot := ⟨entryPlace "patches" i, "Patch entry " ++ toString (i + 1)⟩
  if !v.isObject then problem spot .entryKind
  else checkPatch presets spot "target" (v.memberOrNull "target") v

def checkPreset (name v : Json) : List Finding :=
  let place : Place := [.name "option_presets", Place.partOf name]
  match v with
  | .arr xs =>
    Finding.withoutTargets (each xs fun i x =>
      checkOption ⟨place ++ [.position i],
        "Preset '" ++ name.describe ++ "' option " ++ toString (i + 1)⟩ x)
  | _ => problem ⟨place, "Option presets"⟩ .presetKind

/-- The id of an entry that is a step of its own. -/
def plainStepId? (v : Json) : Option String :=
  if Payload.isPresetEntry v then none
  else
    match v.memberOrNull "id" with
    | .str id => if Text.isBlankText id || isPatchId id then none else some id
    | _ => none

def stepIds (payload : Payload) : List String := payload.entries.filterMap plainStepId?

def contentSpot (name : String) : Spot := ⟨[.name name], "Content"⟩

/-- Everything found in a payload that is an object. -/
def findings (payload : Payload) : List Finding :=
  let presets := payload.presets
  let config := payload.value.memberOrNull "config"
  let locations := payload.value.memberOrNull "locations"
  let patches := payload.value.memberOrNull "patches"
  require (payload.value.memberOrNull "steps").asList?.isSome (contentSpot "steps")
      .stepsMissing ++
    require (config.isNull || config.isObject) (contentSpot "config") .configKind ++
    require (locations.isNull || locations.isObject) (contentSpot "locations") .locationsKind ++
    presets.flatMap (fun p => checkPreset p.1 p.2) ++
    each payload.entries (checkStepEntry presets) ++
    require (patches.isNull || patches.asList?.isSome) (contentSpot "patches") .patchesKind ++
    each (patches.asList?.getD []) (checkPatchEntry presets)

/-- Options lead to steps whatever the case of the letters. -/
def unknownTarget? (ids : List String) (l : Link) : Option Issue :=
  if (ids.map Text.lower).contains (Text.lower l.target) then none
  else some ⟨l.spot, .targetUnknown l.target⟩

/-- Patches attach to steps of exactly their target. -/
def unknownPatchTarget? (ids : List String) (l : Link) : Option Issue :=
  if ids.contains l.target then none
  else if (ids.map Text.lower).contains (Text.lower l.target) then
    some ⟨l.spot, .patchTargetCase l.target⟩
  else some ⟨l.spot, .patchTargetUnknown l.target⟩

end Validation

/-- What a validation reports. -/
structure Report where
  errors : List Issue := []
  warnings : List Issue := []

def Report.errorTexts (r : Report) : List String := r.errors.map Issue.text

def Report.warningTexts (r : Report) : List String := r.warnings.map Issue.text

open Validation in
/-- The issues of a payload. -/
def reportOn (payload : Payload) : Report :=
  if payload.value.isObject then
    let found := findings payload
    let issues := found.filterMap Finding.issue?
    let ids := stepIds payload
    { errors := issues.filter fun i => !i.problem.isWarning
      warnings := issues.filter (fun i => i.problem.isWarning) ++
        (found.filterMap Finding.optionTarget?).filterMap (unknownTarget? ids) ++
        (found.filterMap Finding.patchTarget?).filterMap (unknownPatchTarget? ids) }
  else { errors := [⟨contentSpot "content", .contentKind⟩] }

open Validation in
/-- The issues of a payload all of whose tags can be read. -/
def validate (payload : Payload) : Except Fault Report :=
  if payload.value.isObject && (findings payload).any Finding.isUnreadableTag then
    .error .unreadableNumber
  else .ok (reportOn payload)

end Questline
