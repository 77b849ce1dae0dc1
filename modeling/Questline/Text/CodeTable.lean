/-!
# Tables of code points

Two compact tables: ascending ranges, searched by bisection, and runs of a
case map.  Both are read from a text of numerals in base sixteen, so that the
data stays in the shape in which the standard lists it.
-/

namespace Questline.Text

def hexDigitValue? (c : Char) : Option Nat :=
  if '0' ≤ c ∧ c ≤ '9' then some (c.toNat - '0'.toNat)
  else if 'a' ≤ c ∧ c ≤ 'f' then some (c.toNat - 'a'.toNat + 10)
  else if 'A' ≤ c ∧ c ≤ 'F' then some (c.toNat - 'A'.toNat + 10)
  else none

/-- The numerals of a text of base-sixteen digits; any other character parts two numerals. -/
def hexNumerals (cs : List Char) (open? : Option Nat) : List Nat :=
  match cs with
  | [] => open?.toList
  | c :: rest =>
    match hexDigitValue? c with
    | some d => hexNumerals rest (some (open?.getD 0 * 16 + d))
    | none => open?.toList ++ hexNumerals rest none

def pairs : List Nat → List (Nat × Nat)
  | a :: b :: rest => (a, b) :: pairs rest
  | _ => []

def quadruples : List Nat → List (Nat × Nat × Nat × Nat)
  | a :: b :: c :: d :: rest => (a, b, c, d) :: quadruples rest
  | _ => []

/-- Inclusive ranges of code points in ascending order. -/
structure CodeRanges where
  spans : Array (Nat × Nat)

namespace CodeRanges

def ofText (s : String) : CodeRanges := ⟨(pairs (hexNumerals s.toList none)).toArray⟩

/-- Bisection between the positions `lo` and `hi`. -/
def search (spans : Array (Nat × Nat)) (n lo hi : Nat) : Option Nat :=
  if _ : lo < hi then
    let mid := (lo + hi) / 2
    match spans[mid]? with
    | none => none
    | some (first, last) =>
      if n < first then search spans n lo mid
      else if last < n then search spans n (mid + 1) hi
      else some first
  else none
termination_by hi - lo

/-- The first code point of the range that holds `n`. -/
def start? (r : CodeRanges) (n : Nat) : Option Nat := search r.spans n 0 r.spans.size

def contains (r : CodeRanges) (n : Nat) : Bool := (r.start? n).isSome

end CodeRanges

/-- Runs (first, last, stride, image of the first) of a map on code points. -/
structure CaseRuns where
  runs : List (Nat × Nat × Nat × Nat)

namespace CaseRuns

def ofText (s : String) : CaseRuns := ⟨quadruples (hexNumerals s.toList none)⟩

def image? (r : CaseRuns) (n : Nat) : Option Nat :=
  r.runs.findSome? fun (first, last, stride, target) =>
    if first ≤ n ∧ n ≤ last ∧ (n - first) % stride = 0 then some (target + (n - first)) else none

end CaseRuns

/-- Characters whose image has up to three characters. -/
structure CaseSpecials where
  entries : List (Nat × Nat × Nat × Nat)

namespace CaseSpecials

def ofText (s : String) : CaseSpecials := ⟨quadruples (hexNumerals s.toList none)⟩

def image? (r : CaseSpecials) (n : Nat) : Option (List Nat) :=
  r.entries.findSome? fun (code, a, b, c) =>
    if code = n then some ([a, b, c].filter (· ≠ 0)) else none

end CaseSpecials

end Questline.Text
