import Questline.Text.Quoted
import Questline.Text.Trim

/-!
# Paths

A path is a list of names below the working directory.  A resolved path has
that directory as its anchor and is written with it; a path from the root leads
to places outside of it.
-/

namespace Questline

/-- Where a path begins. -/
inductive Anchor where
  | here
  /-- The working directory under its name. -/
  | named (directory : String)
  | root
deriving DecidableEq

structure FilePath where
  anchor : Anchor := .here
  parts : List String
deriving DecidableEq

namespace FilePath

/-- The path that a text denotes: empty names and single points stand for nothing. -/
def ofText (s : String) : FilePath where
  anchor := if Text.leads "/" s then .root else .here
  parts := ((Text.partsAt '/' s.toList).map String.ofList).filter fun part =>
    part ≠ "" && part ≠ "."

def text (p : FilePath) : String :=
  match p.anchor, p.parts with
  | .here, [] => "."
  | .here, parts => Text.joined "/" parts
  | .named directory, parts => Text.joined "/" (directory :: parts)
  | .root, parts => "/" ++ Text.joined "/" parts

def child (p : FilePath) (name : String) : FilePath := { p with parts := p.parts ++ [name] }

def parent (p : FilePath) : FilePath := { p with parts := p.parts.dropLast }

/-- The last name of a path. -/
def name (p : FilePath) : String := p.parts.getLastD ""

/-- One name further; two points lead back to the folder above. -/
def stepTo (above : List String) (part : String) : List String :=
  if part = ".." then above.dropLast else above ++ [part]

/-- Where a path leads if nothing is in its way. -/
def location (p : FilePath) : List String := p.parts.foldl stepTo []

/-- The same place, written from the working directory under its name. -/
def resolve (directory : String) (p : FilePath) : FilePath :=
  match p.anchor with
  | .here => ⟨.named directory, p.location⟩
  | anchor => ⟨anchor, p.location⟩

/-- No name of a path holds a null character. -/
def isWritable (p : FilePath) : Bool := p.parts.all fun part => !part.toList.contains '\x00'

/-- The longest name, in bytes. -/
def nameLimit : Nat := 255

/-- The longest path, in bytes. -/
def textLimit : Nat := 4095

theorem location_child (p : FilePath) {name : String} (h : name ≠ "..") :
    (p.child name).location = p.location ++ [name] := by
  simp [location, child, stepTo, h]

end FilePath

end Questline
