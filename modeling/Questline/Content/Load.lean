import Questline.Content.Build
import Questline.Content.Merge

/-!
# Loading content

Content from a path: a directory of quest files is merged, any other path is
read as one payload.
-/

namespace Questline

inductive LoadFault where
  | content (f : ContentFault)
  | file (f : FileFault)

namespace LoadFault

/-- The message about content that is no good. -/
def contentMessage? : LoadFault → Option String
  | content f => if f.isRefusal then f.message? else none
  | file _ => none

/-- The message for a player: content that is no good, or a file that cannot be opened. -/
def userMessage? : LoadFault → Option String
  | file f => f.message?
  | f => f.contentMessage?

end LoadFault

namespace Content

def liftLoad {α : Type} : Except ContentFault α → Except LoadFault α
  | .ok a => .ok a
  | .error f => .error (.content f)

def liftMerge {α : Type} : Except MergeFault α → Except LoadFault α
  | .ok a => .ok a
  | .error (.file f) => .error (.file f)
  | .error (.fault f) => .error (.content (.fault f))

def loadDirectory (files : FileTree) (directory : FilePath) : Except LoadFault Content := do
  let merged ← liftMerge (mergeDirectory files directory)
  if merged.report.errors.isEmpty then
    liftLoad (build (some directory.text) merged.payload)
  else throw (.content (.unmergeable directory.text merged.report.errorTexts))

def malformedText (path : FilePath) : String :=
  path.text ++ ": invalid JSON (" ++ DocumentFault.malformedMessage ++ ")."

def loadFile (files : FileTree) (path : FilePath) : Except LoadFault Content :=
  match files.readValue path with
  | .ok v => liftLoad (build (some path.name) (.ofJson v))
  | .error (.file f) => .error (.file f)
  | .error .malformed => .error (.content (.invalid [malformedText path]))
  | .error .undecodable => .error (.content (.fault .undecodable))
  | .error .hugeInteger => .error (.content (.fault .unreadableNumber))
  | .error .tooDeep => .error (.content (.fault .tooDeep))

def load (files : FileTree) (path : FilePath) : Except LoadFault Content :=
  match files.probe path with
  | .error f => .error (.file f)
  | .ok (some .folder) => loadDirectory files path
  | .ok _ => loadFile files path

end Content

end Questline
