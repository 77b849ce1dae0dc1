import Questline.Content.Library
import Questline.Config
import Questline.Tag

/-!
# Composition of patches

Patches add tags, text, options and variables to a step when their conditions
hold.  Conditions on the base look at the names among the tags of the step as
it was written, the others at the player.
-/

namespace Questline

variable {α : Type}

/-- How often each name occurs among the tags of a step, operators aside. -/
def baseCounts (base : StepOf α) : Counts := fun name =>
  ((base.tags.map fun token => (Tag.ofToken token).name).count name : Int)

/-- Whether one tag of a patch allows it on a step. -/
def patchTagHolds (base : StepOf α) (counts : Counts) (t : Tag) : Bool :=
  match t.operator with
  | .grant => true
  | .consume => true
  | .baseRequire => t.holds (baseCounts base)
  | .baseForbid => !t.holds (baseCounts base)
  | _ => t.met counts

def patchTokenHolds (base : StepOf α) (counts : Counts) (token : String) : Bool :=
  patchTagHolds base counts (Tag.ofToken token)

def patchApplies (base : Step) (counts : Counts) (p : StepPatch) : Bool :=
  p.isFor base.id && !isPatchId base.id && p.tags.all (patchTokenHolds base counts)

def applicable (base : Step) (patches : List StepPatch) (counts : Counts) : List StepPatch :=
  patches.filter (patchApplies base counts)

def mutationTokens (tokens : List String) : List String :=
  tokens.filter fun token => (Tag.ofToken token).isMutation

/-- The texts that stand one after the other once patches are put on a text: the last replacement
if there is one, else the text between those before and after it.  Only texts that pass through
`proper?` count. -/
def textPieces (proper? : α → Option α) (text : α) (changes : List (TextChangeOf α)) : List α :=
  match (changes.filterMap fun c => c.instead.bind proper?).getLast? with
  | some replacement => [replacement]
  | none =>
    (changes.filterMap fun c => c.before.bind proper?) ++ [text] ++
      changes.filterMap fun c => c.after.bind proper?

/-- A text that is not empty. -/
def properText? (s : String) : Option String := if s.isEmpty then none else some s

/-- The text that patches leave, its pieces parted by the separator. -/
def composedText (separator : String) (applied : List StepPatch) (text : String) : String :=
  Text.joined separator (textPieces properText? text (applied.map (·.text)))

/-- A step with patches put on it, their changes to the text settled beforehand. -/
def withPatches (base : StepOf α) (text : α) (applied : List (PatchOf α)) : StepOf α :=
  { base with
    tags := base.tags ++ applied.flatMap fun p => mutationTokens p.tags
    text := text
    options := base.options ++ applied.flatMap (·.options)
    vars := applied.foldl (fun vars p => vars.update p.vars) base.vars }

/-- A step as the applicable patches leave it. -/
def compose (separator : String) (base : Step) (patches : List StepPatch) (counts : Counts) :
    Step :=
  match applicable base patches counts with
  | [] => base
  | applied => withPatches base (composedText separator applied base.text) applied

@[simp] theorem id_compose (separator : String) (base : Step) (patches : List StepPatch)
    (counts : Counts) : (compose separator base patches counts).id = base.id := by
  unfold compose
  split <;> rfl

end Questline
