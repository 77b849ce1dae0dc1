import Questline.Config
import Questline.Files.Document

/-!
# Stored configuration

The configuration in a file: the rules themselves, or a payload that holds
them.  A file that is missing, cannot be opened or is no document stands for
the default rules.
-/

namespace Questline.Config

/-- The rules inside a value: a payload keeps them in a member of its own. -/
def rulesOf (v : Json) : Json :=
  match v.member? "config" with
  | some rules => if rules.isObject then rules else v
  | none => v

def load (files : FileTree) (path : FilePath) : Except Fault Config :=
  match files.readValue path with
  | .ok v => ofJson (rulesOf v)
  | .error f => f.report.map fun _ => {}

end Questline.Config
