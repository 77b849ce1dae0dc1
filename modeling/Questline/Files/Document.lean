import Questline.Fault
import Questline.Files.Tree
import Questline.Json.Reader

/-!
# Documents in files

Reading the value that a file holds: its bytes must be UTF-8 text, the text
must be a document.
-/

namespace Questline

/-- Why a file yields no value. -/
inductive DocumentFault where
  | file (f : FileFault)
  | undecodable
  | malformed
  | hugeInteger
  | tooDeep
deriving DecidableEq

namespace DocumentFault

/-- The wording for a text that is no document. -/
def malformedMessage : String := "<json error>"

/-- How a fault is reported: a file that cannot be opened and a malformed document have a wording,
the others stop whatever goes on. -/
def report : DocumentFault → Except Fault String
  | file f => f.message?.elim (.error .unusablePath) .ok
  | malformed => .ok malformedMessage
  | undecodable => .error .undecodable
  | hugeInteger => .error .unreadableNumber
  | tooDeep => .error .tooDeep

end DocumentFault

namespace FileContent

/-- The text of a document. -/
def readText (s : String) : Except DocumentFault Json :=
  match Json.read s with
  | .ok v => .ok v
  | .error .malformed => .error .malformed
  | .error .hugeInteger => .error .hugeInteger
  | .error .tooDeep => .error .tooDeep

/-- The value of a file. -/
def value : FileContent → Except DocumentFault Json
  | .document v => .ok v
  | .text s => readText s
  | .bytes bs =>
    match String.fromUTF8? (ByteArray.mk bs.toArray) with
    | some s => readText s
    | none => .error .undecodable

end FileContent

/-- The value that the file at a path holds. -/
def FileTree.readValue (t : FileTree) (p : FilePath) : Except DocumentFault Json :=
  match t.read p with
  | .ok content => content.value
  | .error f => .error (.file f)

end Questline
