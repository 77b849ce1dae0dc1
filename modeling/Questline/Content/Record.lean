import Questline.Config
import Questline.Tag

/-!
# Content records

Steps, their options, and patches that attach to steps of other files.  The
records are written over the type `α` of the values at places where a text is
expected: `Json` for what an author wrote there, `String` once that has been
checked.
-/

namespace Questline

/-- One way to fill a quest variable. -/
inductive Choice where
  | text (s : String)
  | fields (fs : Table String)
deriving DecidableEq

/-- What a step does to each declared variable: draw one of the choices, or clear it. -/
abbrev Declarations := Table (Option (List Choice))

/-- The lead of step ids that denote patches. -/
def patchLead : String := "@patch:"

def isPatchId (id : String) : Bool := Text.leads patchLead id

/-- The id of the step that a patch id denotes; other ids denote themselves. -/
def patchTarget (id : String) : String := Text.dropLead patchLead id

structure OptionOf (α : Type) where
  label : String
  tags : List String := []
  passTarget : Option α := none
  failTarget : Option α := none
  skills : List String := []
  dc : Option Int := none
  hidden : Bool := false
deriving DecidableEq

/-- A change that a patch makes to the text of a step. -/
structure TextChangeOf (α : Type) where
  before : Option α := none
  after : Option α := none
  instead : Option α := none
deriving DecidableEq

structure StepOf (α : Type) where
  id : α
  tags : List String := []
  text : α
  vars : Declarations := []
  options : List (OptionOf α) := []
  log : Option α := none
  source : Option String := none
deriving DecidableEq

/-- A patch.  Whatever it is attached to, only a text can be the id of a step. -/
structure PatchOf (α : Type) where
  target : Json
  tags : List String := []
  text : TextChangeOf α := {}
  options : List (OptionOf α) := []
  vars : Declarations := []
  source : Option String := none
deriving DecidableEq

abbrev StepOption := OptionOf String

abbrev Step := StepOf String

abbrev StepPatch := PatchOf String

variable {α β : Type}

/-- An option with skills and a difficulty is decided by a roll. -/
def OptionOf.isSkillCheck (o : OptionOf α) : Bool := !o.skills.isEmpty && o.dc.isSome

def TextChangeOf.isEmpty (t : TextChangeOf α) : Bool :=
  t.before.isNone && t.after.isNone && t.instead.isNone

/-- A value that may be missing, through a conversion that may fail. -/
def convert? (f : α → Option β) : Option α → Option (Option β)
  | none => some none
  | some a => (f a).map some

def OptionOf.convert? (f : α → Option β) (o : OptionOf α) : Option (OptionOf β) := do
  let passTarget ← Questline.convert? f o.passTarget
  let failTarget ← Questline.convert? f o.failTarget
  return ⟨o.label, o.tags, passTarget, failTarget, o.skills, o.dc, o.hidden⟩

def TextChangeOf.convert? (f : α → Option β) (t : TextChangeOf α) : Option (TextChangeOf β) := do
  return ⟨← Questline.convert? f t.before, ← Questline.convert? f t.after,
    ← Questline.convert? f t.instead⟩

def StepOf.convert? (f : α → Option β) (s : StepOf α) : Option (StepOf β) := do
  let id ← f s.id
  let text ← f s.text
  let options ← s.options.mapM (OptionOf.convert? f)
  let log ← Questline.convert? f s.log
  return ⟨id, s.tags, text, s.vars, options, log, s.source⟩

def PatchOf.convert? (f : α → Option β) (p : PatchOf α) : Option (PatchOf β) := do
  let text ← p.text.convert? f
  let options ← p.options.mapM (OptionOf.convert? f)
  return ⟨p.target, p.tags, text, options, p.vars, p.source⟩

/-- Whether a patch is attached to the step with the given id. -/
def PatchOf.isFor (p : PatchOf α) (id : String) : Bool := p.target.asText? == some id

theorem PatchOf.isFor_iff {p : PatchOf α} {id : String} :
    p.isFor id = true ↔ p.target = .str id := by
  rw [isFor, beq_iff_eq]
  cases p.target with
  | str s => simp [Json.asText?]
  | _ => simp [Json.asText?]

end Questline
