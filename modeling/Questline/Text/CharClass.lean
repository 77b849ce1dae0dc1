import Questline.Text.CharTable

/-!
# Character classes

Below code point 128 each class is given by its rule, so that closed examples
compute without the tables; above, by the tables of Unicode 14.
-/

namespace Questline.Text

def isAscii (c : Char) : Bool := c.toNat < 128

/-- White space: what trimming removes. -/
def isBlank (c : Char) : Bool :=
  let n := c.toNat
  (9 ≤ n && n ≤ 13) || (28 ≤ n && n ≤ 32) || n == 0x85 || n == 0xa0 || n == 0x1680 ||
    (0x2000 ≤ n && n ≤ 0x200a) || n == 0x2028 || n == 0x2029 || n == 0x202f ||
    n == 0x205f || n == 0x3000

/-- The value of a decimal digit of any script. -/
def decimalDigit? (c : Char) : Option Nat :=
  if isAscii c then
    if '0' ≤ c ∧ c ≤ '9' then some (c.toNat - '0'.toNat) else none
  else (CharTable.decimal.start? c.toNat).map fun first => (c.toNat - first) % 10

def isDecimalDigit (c : Char) : Bool := (decimalDigit? c).isSome

/-- Decimal digits together with superscripts, circled digits and the like. -/
def isDigit (c : Char) : Bool :=
  if isAscii c then c.isDigit else CharTable.digit.contains c.toNat

/-- Letters, numbers and the underscore. -/
def isWord (c : Char) : Bool :=
  if isAscii c then c.isAlphanum || c == '_' else CharTable.word.contains c.toNat

/-- A word character that is no decimal digit. -/
def isWordLetter (c : Char) : Bool := isWord c && !isDecimalDigit c

def isNameStart (c : Char) : Bool :=
  if isAscii c then c.isAlpha || c == '_' else CharTable.nameStart.contains c.toNat

def isNameContinue (c : Char) : Bool :=
  if isAscii c then c.isAlphanum || c == '_' else CharTable.nameContinue.contains c.toNat

/-- A plain name: it can stand in a path without quotes. -/
def isPlainName : List Char → Bool
  | [] => false
  | c :: rest => isNameStart c && rest.all isNameContinue

def isPrintable (c : Char) : Bool :=
  if isAscii c then 32 ≤ c.toNat && c.toNat < 127 else CharTable.printable.contains c.toNat

def isCased (c : Char) : Bool :=
  if isAscii c then c.isAlpha else CharTable.cased.contains c.toNat

/-- Characters that the rule for the final sigma skips. -/
def isCaseIgnorable (c : Char) : Bool :=
  if isAscii c then c == '\'' || c == '.' || c == ':' || c == '^' || c.toNat == 96
  else CharTable.caseIgnorable.contains c.toNat

end Questline.Text
