import Questline.Table
import Questline.Text.Trim

/-!
# Templates

A text with placeholders: a name of word characters and points between two
pairs of braces.  A variable with a value fills its placeholder; otherwise a
name such as `npc.him` is filled by the pronoun that fits `npc.gender`; any
other placeholder stays as written.
-/

namespace Questline

inductive Gender where
  | male
  | female
  | neutral
deriving DecidableEq

namespace Gender

def ofName? : String → Option Gender
  | "male" => some male
  | "female" => some female
  | "neutral" => some neutral
  | _ => none

/-- Subject, object, possessive and reflexive. -/
def forms : Gender → List String
  | male => ["he", "him", "his", "himself"]
  | female => ["she", "her", "her", "herself"]
  | neutral => ["they", "them", "their", "themself"]

end Gender

/-- The place of a pronoun among the forms, whichever gender it is written in. -/
def pronounPlace? : String → Option Nat
  | "he" => some 0
  | "she" => some 0
  | "they" => some 0
  | "him" => some 1
  | "her" => some 1
  | "them" => some 1
  | "his" => some 2
  | "hers" => some 2
  | "theirs" => some 2
  | "himself" => some 3
  | "herself" => some 3
  | "themself" => some 3
  | _ => none

def capitalized (s : String) : String :=
  match s.toList with
  | [] => ""
  | c :: cs => .ofList (c.toUpper :: cs)

/-- The same word with a small first letter, if its first letter is a capital of the alphabet. -/
def uncapitalized? (s : String) : Option String :=
  match s.toList with
  | [] => none
  | c :: cs => if c.isUpper then some (.ofList (c.toLower :: cs)) else none

/-- The form of a pronoun for a gender; a capital carries over. -/
def Gender.pronoun? (g : Gender) (word : String) : Option String :=
  match pronounPlace? word with
  | some i => g.forms[i]?
  | none => do
    let i ← pronounPlace? (← uncapitalized? word)
    return capitalized (← g.forms[i]?)

/-- The part before the last point and the part after it. -/
def splitLastPoint? (name : List Char) : Option (List Char × List Char) :=
  match name.reverse.dropWhile (· != '.') with
  | [] => none
  | _ :: before => some (before.reverse, (name.reverse.takeWhile (· != '.')).reverse)

/-- The variable that holds the gender of whoever the names below `space` speak of. -/
def genderVariable (space : List Char) : String := .ofList space ++ ".gender"

/-- The pronoun that a dotted name stands for. -/
def derivePronoun (vars : Table String) (name : String) : Option String := do
  let (space, word) ← splitLastPoint? name.toList
  let gender ← Gender.ofName? (← Table.get? (genderVariable space) vars)
  gender.pronoun? (.ofList word)

namespace Template

inductive Piece where
  | plain (c : Char)
  | slot (name : List Char)
deriving DecidableEq

def isNameChar (c : Char) : Bool := Text.isWord c || c == '.'

/-- The name of the placeholder at the start of a text. -/
def placeholder? : List Char → Option (List Char)
  | '\x7b' :: '\x7b' :: rest =>
    let name := rest.takeWhile isNameChar
    match rest.dropWhile isNameChar with
    | '\x7d' :: '\x7d' :: _ => if name.isEmpty then none else some name
    | _ => none
  | _ => none

/-- Reads from left to right; `skip` characters still belong to the placeholder read last. -/
def piecesFrom (skip : Nat) : List Char → List Piece
  | [] => []
  | c :: cs =>
    match skip with
    | skip + 1 => piecesFrom skip cs
    | 0 =>
      match placeholder? (c :: cs) with
      | some name => .slot name :: piecesFrom (name.length + 3) cs
      | none => .plain c :: piecesFrom 0 cs

def pieces (template : String) : List Piece := piecesFrom 0 template.toList

/-- A placeholder as it is written. -/
def slotText (name : List Char) : List Char := '\x7b' :: '\x7b' :: name ++ ['\x7d', '\x7d']

def Piece.source : Piece → List Char
  | .plain c => [c]
  | .slot name => slotText name

/-- What fills a placeholder, if anything does. -/
def filling? (vars : Table String) (name : String) : Option String :=
  match (Table.get? name vars).filter (!·.isEmpty) with
  | some value => some value
  | none => (derivePronoun vars name).filter (!·.isEmpty)

def Piece.fill (vars : Table String) : Piece → List Char
  | .plain c => [c]
  | .slot name =>
    match filling? vars (.ofList name) with
    | some value => value.toList
    | none => slotText name

/-- The text of a template. -/
def render (vars : Table String) (template : String) : String :=
  .ofList ((pieces template).flatMap (Piece.fill vars))

/-- The names of the placeholders, in order and with repetition. -/
def names (template : String) : List String :=
  (pieces template).filterMap fun
    | .plain _ => none
    | .slot name => some (.ofList name)

end Template

end Questline
