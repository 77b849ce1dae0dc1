import Questline.Text.CharClass

/-!
# Reading integers

A numeral may stand between white space, may carry a sign, may part two digits
by one underscore, and may use the decimal digits of any script.  Numerals of
more than `digitLimit` digits are refused, and numbers that need more digits are
not written either.
-/

namespace Questline.Text

def digitLimit : Nat := 4300

/-- The number that a list of digit values denotes. -/
def numberOfDigits (ds : List Nat) : Nat := ds.foldl (fun n d => 10 * n + d) 0

/-- The digits of a run of decimal digits; none if another character occurs. -/
def digitValues? : List Char → Option (List Nat)
  | [] => some []
  | c :: cs => do return (← decimalDigit? c) :: (← digitValues? cs)

/-- White space around a numeral: the separators of files and records do not count as such. -/
def isNumeralBlank (c : Char) : Bool := isBlank c && !(28 ≤ c.toNat && c.toNat ≤ 31)

/-- Removes the underscores that part two digits; none if one stands elsewhere. -/
def withoutUnderscores? : List Char → Option (List Char)
  | [] => some []
  | ['_'] => none
  | '_' :: _ => none
  | c :: '_' :: d :: cs => if d = '_' then none else (withoutUnderscores? (d :: cs)).map (c :: ·)
  | c :: cs => (withoutUnderscores? cs).map (c :: ·)

def unsignedNumeral? (cs : List Char) : Option Nat := do
  let bare ← withoutUnderscores? cs
  let digits ← digitValues? bare
  if digits.isEmpty || digitLimit < digits.length then none else some (numberOfDigits digits)

/-- The integer that a text denotes. -/
def integer? (s : String) : Option Int :=
  let core := (s.toList.dropWhile isNumeralBlank).reverse.dropWhile isNumeralBlank |>.reverse
  match core with
  | '-' :: cs => (unsignedNumeral? cs).map fun n => -(n : Int)
  | '+' :: cs => (unsignedNumeral? cs).map Int.ofNat
  | cs => (unsignedNumeral? cs).map Int.ofNat

/-- Whether a number can be written out. -/
def isWritable (n : Int) : Bool := (Nat.toDigits 10 n.natAbs).length ≤ digitLimit

end Questline.Text
