import Questline.Fault
import Questline.Text.Trim

/-!
# Tags

A tag token is a name under an operator mark; tokens that test something may
end in a comparison with a number:

    inv:rope       require
    @trait:brave   require, and prefer when scoring
    !quest         forbid
    +inv:rope      grant one copy
    -inv:silver    consume one copy
    ^visited       the step under a patch carries the tag
    ^!visited      it does not
    @level>1       require with a comparison

`Tag.ofToken` reads every token and `Tag.format` writes every tag; `Tag.read`
and `Tag.write` refuse the ones whose number is too long.
-/

namespace Questline

inductive Operator where
  | require
  | prefer
  | forbid
  | grant
  | consume
  | baseRequire
  | baseForbid
  /-- A mark without a meaning. -/
  | other (mark : String)
deriving DecidableEq

namespace Operator

def mark : Operator → String
  | require => ""
  | prefer => "@"
  | forbid => "!"
  | grant => "+"
  | consume => "-"
  | baseRequire => "^"
  | baseForbid => "^!"
  | other mark => mark

def ofMark (mark : String) : Operator :=
  if mark = "" then require
  else if mark = "@" then prefer
  else if mark = "!" then forbid
  else if mark = "+" then grant
  else if mark = "-" then consume
  else if mark = "^" then baseRequire
  else if mark = "^!" then baseForbid
  else other mark

def isMutation : Operator → Bool
  | grant => true
  | consume => true
  | _ => false

def isBaseCondition : Operator → Bool
  | baseRequire => true
  | baseForbid => true
  | _ => false

def isPlayerCondition : Operator → Bool
  | require => true
  | prefer => true
  | forbid => true
  | _ => false

/-- The operator of a token and the rest of it; the longer mark wins. -/
def split : List Char → Operator × List Char
  | '^' :: '!' :: rest => (baseForbid, rest)
  | '^' :: rest => (baseRequire, rest)
  | '@' :: rest => (prefer, rest)
  | '!' :: rest => (forbid, rest)
  | '+' :: rest => (grant, rest)
  | '-' :: rest => (consume, rest)
  | rest => (require, rest)

end Operator

inductive Comparison where
  | equal
  | less
  | greater
  /-- A mark that compares nothing. -/
  | other (mark : String)
deriving DecidableEq

namespace Comparison

def mark : Comparison → String
  | equal => "="
  | less => "<"
  | greater => ">"
  | other mark => mark

def ofMark (mark : String) : Comparison :=
  if mark = "=" then equal
  else if mark = "<" then less
  else if mark = ">" then greater
  else other mark

def ofChar? : Char → Option Comparison
  | '=' => some equal
  | '<' => some less
  | '>' => some greater
  | _ => none

/-- Whether a count stands in the relation to a number; a mark that compares nothing asks for one
copy. -/
def holds (c : Comparison) (count value : Int) : Bool :=
  match c with
  | equal => count == value
  | less => count < value
  | greater => value < count
  | other _ => 1 ≤ count

end Comparison

structure Tag where
  operator : Operator
  name : String
  comparison : Option Comparison := none
  value : Option Int := none
deriving DecidableEq

/-- How many copies of each tag are held. -/
abbrev Counts := String → Int

namespace Tag

def isMutation (t : Tag) : Bool := t.operator.isMutation

def isBaseCondition (t : Tag) : Bool := t.operator.isBaseCondition

def isPlayerCondition (t : Tag) : Bool := t.operator.isPlayerCondition

/-- A single line feed at the very end does not count. -/
def withoutFinalFeed (cs : List Char) : List Char :=
  match cs.reverse with
  | '\n' :: rest => rest.reverse
  | _ => cs

/-- Splits a name, a comparison mark and decimal digits; the name is not empty and has no line
feed. -/
def splitComparison? (cs : List Char) : Option (List Char × Comparison × List Char) :=
  let reversed := (withoutFinalFeed cs).reverse
  let digits := (reversed.takeWhile Text.isDecimalDigit).reverse
  match reversed.dropWhile Text.isDecimalDigit with
  | [] => none
  | c :: rest =>
    match Comparison.ofChar? c with
    | none => none
    | some comparison =>
      if digits.isEmpty || rest.isEmpty || rest.contains '\n' then none
      else some (rest.reverse, comparison, digits)

def digitsNumber (ds : List Char) : Nat := Text.numberOfDigits (ds.filterMap Text.decimalDigit?)

/-- The parts of a token: grants and consumptions never compare. -/
def parts (cs : List Char) : Operator × List Char × Option (Comparison × List Char) :=
  let (operator, rest) := Operator.split cs
  if operator.isMutation then (operator, rest, none)
  else
    match splitComparison? rest with
    | some (name, comparison, digits) => (operator, name, some (comparison, digits))
    | none => (operator, rest, none)

def ofParts : Operator × List Char × Option (Comparison × List Char) → Tag
  | (operator, name, none) => ⟨operator, .ofList name, none, none⟩
  | (operator, name, some (comparison, digits)) =>
    ⟨operator, .ofList name, some comparison, some (digitsNumber digits)⟩

/-- The tag that a token denotes. -/
def ofToken (token : String) : Tag := ofParts (parts token.toList)

/-- Whether the number of a token, if it has one, is short enough to be read. -/
def isReadable (token : String) : Bool :=
  match (parts token.toList).2.2 with
  | none => true
  | some (_, digits) => digits.length ≤ Text.digitLimit

/-- The tag of a token whose number can be read. -/
def read (token : String) : Except Fault Tag :=
  if isReadable token then .ok (ofToken token) else .error .unreadableNumber

/-- Why a value is no tag token. -/
inductive TokenFault where
  /-- A value that is no text, with the kind it has instead. -/
  | notAText (kind : String)
  | fault (f : Fault)
deriving DecidableEq

def TokenFault.message? : TokenFault → Option String
  | notAText kind => some ("tag token must be a string, got " ++ kind)
  | fault _ => none

/-- The token that a value is, if its number can be read. -/
def token : Json → Except TokenFault String
  | .str s => if isReadable s then .ok s else .error (.fault .unreadableNumber)
  | v => .error (.notAText v.kindWord)

/-- The token of a tag; a comparison without a number, or a number alone, is left out. -/
def format (t : Tag) : String :=
  t.operator.mark ++ t.name ++
    match t.comparison, t.value with
    | some c, some n => c.mark ++ toString n
    | _, _ => ""

/-- Whether the token of a tag can be written: the number of a comparison may be too long. -/
def isWritable (t : Tag) : Bool :=
  match t.comparison, t.value with
  | some _, some n => Text.isWritable n
  | _, _ => true

/-- The token of a tag whose number can be written. -/
def write (t : Tag) : Except Fault String :=
  if t.isWritable then .ok t.format else .error .unreadableNumber

/-- A tag with a comparison and a number asks for the relation, any other for one copy. -/
def comparisonHolds (comparison : Option Comparison) (value : Option Int) (count : Int) : Bool :=
  match comparison, value with
  | some c, some n => c.holds count n
  | _, _ => 1 ≤ count

/-- Whether the count of the tag's name satisfies its comparison. -/
def holds (t : Tag) (counts : Counts) : Bool :=
  comparisonHolds t.comparison t.value (counts t.name)

/-- Whether a tag allows what it stands on: only conditions on the player can fail. -/
def met (t : Tag) (counts : Counts) : Bool :=
  if t.isPlayerCondition then
    if t.operator = .forbid then !t.holds counts else t.holds counts
  else true

/-- Whether a name is internal under the given lead; an empty lead marks nothing. -/
def isInternal (lead name : String) : Bool := !lead.isEmpty && Text.leads lead name

end Tag

/-- Which conditions are looked at: all, or all but those on internal names. -/
structure Scope where
  skipInternal : Bool := false
  internalLead : String := "_"

def Scope.skips (s : Scope) (t : Tag) : Bool :=
  s.skipInternal && Tag.isInternal s.internalLead t.name

def conditionHolds (scope : Scope) (counts : Counts) (token : String) : Bool :=
  let t := Tag.ofToken token
  scope.skips t || t.met counts

def conditionsMet (scope : Scope) (counts : Counts) (tokens : List String) : Bool :=
  tokens.all (conditionHolds scope counts)

/-- The tokens that fail, in order. -/
def unmetConditions (scope : Scope) (counts : Counts) : List String → List String
  | [] => []
  | token :: tokens =>
    if conditionHolds scope counts token then unmetConditions scope counts tokens
    else token :: unmetConditions scope counts tokens

/-- The tokens that are read while all of a list are to hold: none after the first that fails. -/
def readInTurn (holds : String → Bool) : List String → List String
  | [] => []
  | token :: tokens => token :: if holds token then readInTurn holds tokens else []

/-- Stops at tokens whose numbers cannot all be read. -/
def checkTokens (tokens : List String) : Except Fault Unit :=
  if tokens.all Tag.isReadable then .ok () else .error .unreadableNumber

theorem checkTokens_eq_ok_iff {tokens : List String} :
    checkTokens tokens = .ok () ↔ ∀ token ∈ tokens, Tag.isReadable token = true := by
  rw [← List.all_eq_true, checkTokens]
  cases tokens.all Tag.isReadable <;> simp

theorem checkTokens_eq_error_iff {tokens : List String} {f : Fault} :
    checkTokens tokens = .error f ↔
      f = .unreadableNumber ∧ ∃ token ∈ tokens, Tag.isReadable token = false := by
  have hunreadable : (∃ token ∈ tokens, Tag.isReadable token = false) ↔
      tokens.all Tag.isReadable = false := by
    simp
  rw [hunreadable, checkTokens]
  cases tokens.all Tag.isReadable <;> simp [eq_comm]

end Questline
