import Questline.Json.Writer
import Questline.Text.Numeral

/-!
# Faults

What stops an operation that meets data of a shape nobody checked.  A fault
has no wording; it only says what was wrong.
-/

namespace Questline

inductive Fault where
  /-- A value of a kind that the operation cannot use. -/
  | wrongKind
  /-- A text or a number that denotes no integer, or an integer too long to be read or
  written. -/
  | unreadableNumber
  /-- Entries that are no pairs of a name and a value. -/
  | malformedPairs
  /-- An infinite number has no integer part. -/
  | infiniteNumber
  /-- A value that has no members was asked for one. -/
  | noMembers
  /-- An object lacks a member that cannot be done without. -/
  | missingMember
  /-- Bytes that are no UTF-8 text. -/
  | undecodable
  /-- Lists and objects inside one another, too many of them. -/
  | tooDeep
  /-- A path that no file can have. -/
  | unusablePath
  /-- More copies of a tag than can be numbered. -/
  | uncountable
  /-- More copies of a tag than there is room for. -/
  | noRoom
deriving DecidableEq

namespace Json

/-- The integer part of a number, the integer that a text denotes, one or zero for a truth value. -/
def toInteger : Json → Except Fault Int
  | .int n => .ok n
  | .bool b => .ok (if b then 1 else 0)
  | .float (.finite negative m e) => .ok (Binary64.truncate negative m e)
  | .float (.infinite _) => .error .infiniteNumber
  | .float .nan => .error .unreadableNumber
  | .str s =>
    match Text.integer? s with
    | some n => .ok n
    | none => .error .unreadableNumber
  | _ => .error .wrongKind

/-- The integer of a value that may be anything: the default unless there is one to be had.  Only
an infinite number is refused. -/
def integerOr (default : Int) : Json → Except Fault Int
  | .bool _ => .ok default
  | v =>
    match v.toInteger with
    | .ok n => .ok n
    | .error .infiniteNumber => .error .infiniteNumber
    | .error _ => .ok default

/-- The elements to go through, or a fault if there are none to be had. -/
def itemsOf (v : Json) : Except Fault (List Json) :=
  match v.items? with
  | some xs => .ok xs
  | none => .error .wrongKind

end Json

end Questline
