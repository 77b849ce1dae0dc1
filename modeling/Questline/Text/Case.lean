import Questline.Text.CharClass

/-!
# Case mapping

Full mappings of Unicode: one character may become several, and a capital
sigma becomes the final form when a cased letter stands before it and none
after it, characters that the rule ignores being skipped on both sides.
-/

namespace Questline.Text

def charsOfCodes (codes : List Nat) : List Char := codes.map Char.ofNat

/-- The lower case image of a character outside any context. -/
def lowerChar (c : Char) : List Char :=
  if isAscii c then [c.toLower]
  else
    match CharTable.lowerSpecials.image? c.toNat with
    | some codes => charsOfCodes codes
    | none => [(CharTable.lowerRuns.image? c.toNat).elim c Char.ofNat]

def upperChar (c : Char) : List Char :=
  if isAscii c then [c.toUpper]
  else
    match CharTable.upperSpecials.image? c.toNat with
    | some codes => charsOfCodes codes
    | none => [(CharTable.upperRuns.image? c.toNat).elim c Char.ofNat]

def capitalSigma : Char := 'Σ'

def finalSigma : Char := 'ς'

/-- Whether a cased letter follows, case-ignorable characters skipped. -/
def casedFollows (rest : List Char) : Bool :=
  match rest.dropWhile isCaseIgnorable with
  | [] => false
  | c :: _ => isCased c

/-- `casedBefore` says whether a cased letter precedes, case-ignorable characters skipped. -/
def lowerChars (casedBefore : Bool) : List Char → List Char
  | [] => []
  | c :: rest =>
    (if c = capitalSigma ∧ casedBefore ∧ !casedFollows rest then [finalSigma] else lowerChar c) ++
      lowerChars (if isCaseIgnorable c then casedBefore else isCased c) rest

def lower (s : String) : String := .ofList (lowerChars false s.toList)

def upper (s : String) : String := .ofList (s.toList.flatMap upperChar)

end Questline.Text
