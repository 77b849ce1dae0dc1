import Questline.Command.Run
import Questline.Coverage
import Questline.Lint.Check

/-!
# Commands for authors

Checking content against the schema, looking for likely mistakes, printing the
coverage of locations, and merging a directory of quest files into one file.
-/

namespace Questline.Authoring

/-- What a command has to say, the changes it makes, and its exit code. -/
structure Report where
  lines : List String := []
  actions : List FileAction := []
  code : Nat := 0

def defaultContent : String := "quests"

/-- Makes the changes and prints the lines; changes come first. -/
def carryOut (files : FileTree) (report : Except Crash Report) : Run :=
  match report with
  | .error c => .crash files c
  | .ok report =>
    match files.performAll report.actions with
    | (files, none) =>
      (Run.finish files report.code report.lines).after (report.actions.map .change)
    | (files, some f) => .crash files (.file f)

def contentPath (a : Arguments) : FilePath := .ofText (a.positional.getD defaultContent)

def listed (lines : List String) : List String := lines.map (" - " ++ ·)

def mergeFailed (errors : List String) : Report :=
  { lines := "Merge failed:" :: listed errors, code := 1 }

/-- The payload at a path: the merged files of a directory, or the value of a file.  Where there is
none, the report that says so. -/
def payloadAt (files : FileTree) (path : FilePath) (malformed : Except Crash Report) :
    Except Crash (Payload ⊕ Report) := do
  match ← liftFileCrash (files.probe path) with
  | some .folder =>
    let merged ← liftMergeCrash (mergeDirectory files path)
    return if merged.report.errors.isEmpty then .inl merged.payload
      else .inr (mergeFailed merged.report.errorTexts)
  | _ =>
    match files.readValue path with
    | .ok v => return .inl (.ofJson v)
    | .error .malformed => malformed.map .inr
    | .error f => throw (.document f)

/-! ## Validate -/

def validateSpecs : List OptionSpec :=
  [{ names := ["--no-lint"], key := "no-lint", takesValue := false }]

def unparsed (path : FilePath) : Report :=
  { lines := ["Failed to parse JSON from " ++ path.text ++ ": " ++ DocumentFault.malformedMessage]
    code := 1 }

def lintFindings (payload : Payload) (wanted : Bool) : Except Crash (List Lint.Finding) :=
  if wanted then liftFaultCrash (Lint.lint payload none) else .ok []

def headed (heading : String) (lines : List String) : List String :=
  if lines.isEmpty then [] else heading :: listed lines

def hasErrors (findings : List Lint.Finding) : Bool := findings.any fun f => f.severity = .error

def validatePayload (path : FilePath) (payload : Payload) (wantsLint : Bool) :
    Except Crash Report := do
  let found ← liftFaultCrash (validate payload)
  if !found.errors.isEmpty then
    return { lines := "Validation failed (path: message):" :: listed found.errorTexts, code := 1 }
  let findings ← lintFindings payload wantsLint
  let lines := headed "Warnings (path: message):" found.warningTexts ++
    headed "Lint findings:" (findings.map Lint.Finding.text)
  if hasErrors findings then return { lines, code := 1 }
  return { lines := lines ++ ["Validation passed for " ++ path.text ++ "."] }

/-- Checks content; paths are shown from the anchor. -/
def validateReport (files : FileTree) (anchor : String) (a : Arguments) : Except Crash Report := do
  let path := (contentPath a).resolve anchor
  match ← payloadAt files path (.ok (unparsed path)) with
  | .inr report => return report
  | .inl payload => validatePayload path payload (!a.has "no-lint")

/-! ## Lint -/

def lintPayload (payload : Payload) : Except Crash Report := do
  let findings ← liftFaultCrash (Lint.lint payload none)
  if findings.isEmpty then return { lines := ["No lint findings."] }
  return {
    lines := listed (findings.map Lint.Finding.text)
    code := if hasErrors findings then 1 else 0 }

def lintReport (files : FileTree) (a : Arguments) : Except Crash Report := do
  match ← payloadAt files (contentPath a) (.error (.document .malformed)) with
  | .inr report => return report
  | .inl payload => lintPayload payload

/-! ## Coverage -/

def coverageSpecs : List OptionSpec := [{ names := ["--location"], key := "location" }]

/-- The locations asked for, or else all that players can travel to. -/
def coverageLocations (c : Content) (a : Arguments) : List String :=
  if (a.all "location").isEmpty then Coverage.locationIds c else a.all "location"

def coverageLines (c : Content) (location : String) : List String :=
  Coverage.lines location (Coverage.rows c location) ++ [""]

def coverageReport (files : FileTree) (a : Arguments) : Except Crash Report :=
  match Content.load files (contentPath a) with
  | .ok c => .ok { lines := (coverageLocations c a).flatMap (coverageLines c) }
  | .error f =>
    match f.contentMessage? with
    | some message => .ok { lines := [message], code := 1 }
    | none => .error (.load f)

/-! ## Merge -/

def mergeSpecs : List OptionSpec :=
  [{ names := ["--quests"], key := "quests" }, { names := ["--output"], key := "output" }]

def defaultOutput : String := "static/steps.json"

def fileLine (f : QuestFile) : String :=
  "  " ++ f.name ++ ": " ++ f.title ++ " (" ++ toString f.steps ++ " steps)"

/-- The shared ids on one line, which only texts can be put on. -/
def sharedLines (ids : List Json) : Except Crash (List String) :=
  if ids.isEmpty then .ok []
  else
    match ids.mapM Json.asText? with
    | some ids => .ok ["Step ids shared across variants: " ++ Text.joined ", " ids]
    | none => .error (.fault .wrongKind)

def countOf (payload : Payload) (key : String) : String :=
  toString (((payload.value.memberOrNull key).asList?).getD []).length

def mergedLine (merged : Merge) (output : FilePath) : String :=
  "Merged " ++ toString merged.report.files.length ++ " quest file(s) into " ++ output.text ++
    ": " ++ countOf merged.payload "steps" ++ " steps, " ++ countOf merged.payload "patches" ++
    " patches."

def questsPath (a : Arguments) : FilePath := .ofText ((a.last? "quests").getD defaultContent)

def outputPath (a : Arguments) : FilePath := .ofText ((a.last? "output").getD defaultOutput)

/-- A path resolved from the anchor, unless no file can have it. -/
def resolved (anchor : String) (p : FilePath) : Except Crash FilePath :=
  if p.isWritable then .ok (p.resolve anchor) else .error (.file ⟨.nullCharacter, p⟩)

def noDirectory (quests : FilePath) : Report :=
  { lines := ["Quest directory " ++ quests.text ++ " does not exist."], code := 1 }

/-- What comes of a merge: the file is written unless there are errors. -/
def merged (m : Merge) (output : FilePath) : Except Crash Report := do
  let shared ← sharedLines m.report.sharedIds
  let lines := m.report.files.map fileLine ++
    m.report.warningTexts.map ("Warning: " ++ ·) ++ shared
  if m.report.errors.isEmpty then
    return {
      lines := lines ++ [mergedLine m output]
      actions := [.makeFolders output.parent, .write output (.document m.payload.value)] }
  return {
    lines := lines ++ ("Merge aborted due to errors:" :: listed m.report.errorTexts)
    code := 1 }

/-- Merges a directory into a file; paths are shown from the anchor. -/
def mergeReport (files : FileTree) (anchor : String) (a : Arguments) : Except Crash Report := do
  let quests ← resolved anchor (questsPath a)
  let output ← resolved anchor (outputPath a)
  match ← liftFileCrash (files.probe quests) with
  | some .folder => merged (← liftMergeCrash (mergeDirectory files quests)) output
  | _ => return noDirectory quests

/-! ## The commands -/

inductive Tool where
  | validate
  | lint
  | coverage
  | merge
deriving DecidableEq

namespace Tool

def name : Tool → String
  | validate => "validate"
  | lint => "lint"
  | coverage => "coverage"
  | merge => "merge"

def all : List Tool := [validate, lint, coverage, merge]

def ofName? (s : String) : Option Tool := all.find? fun t => t.name = s

def specs : Tool → List OptionSpec
  | validate => validateSpecs
  | lint => []
  | coverage => coverageSpecs
  | merge => mergeSpecs

def takesPositional (t : Tool) : Bool := t != merge

def usage : Tool → String
  | validate => "usage: validate [--no-lint] [CONTENT]"
  | lint => "usage: lint [CONTENT]"
  | coverage => "usage: coverage [--location ID] [CONTENT]"
  | merge => "usage: merge [--quests DIR] [--output FILE]"

def report (t : Tool) (files : FileTree) (anchor : String) (a : Arguments) : Except Crash Report :=
  match t with
  | validate => validateReport files anchor a
  | lint => lintReport files a
  | coverage => coverageReport files a
  | merge => mergeReport files anchor a

/-- Runs a command on the files below the directory `anchor`. -/
def run (t : Tool) (files : FileTree) (anchor : String) (words : List String) : Run :=
  match Arguments.parse t.specs t.takesPositional words with
  | .error f => .refuse files t.usage f
  | .ok a => carryOut files (t.report files anchor a)

end Tool

end Questline.Authoring
