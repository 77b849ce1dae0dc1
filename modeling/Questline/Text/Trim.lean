import Questline.Text.CharClass

/-!
# Trimming, cutting and joining

Everything is stated on lists of characters; the functions on strings only
convert.
-/

namespace Questline.Text

def trimLeft (cs : List Char) : List Char := cs.dropWhile isBlank

def trimRight (cs : List Char) : List Char := (cs.reverse.dropWhile isBlank).reverse

def trimChars (cs : List Char) : List Char := trimRight (trimLeft cs)

/-- The text without the white space at its two ends. -/
def trim (s : String) : String := .ofList (trimChars s.toList)

/-- Only white space, or nothing at all. -/
def isBlankText (s : String) : Bool := s.toList.all isBlank

/-- The characters after `lead`, if the list begins with it. -/
def afterLead? (lead : List Char) (cs : List Char) : Option (List Char) :=
  match lead, cs with
  | [], cs => some cs
  | _ :: _, [] => none
  | l :: lead, c :: cs => if l = c then afterLead? lead cs else none

@[simp] theorem afterLead?_append (lead cs : List Char) :
    afterLead? lead (lead ++ cs) = some cs := by
  induction lead with
  | nil => simp [afterLead?]
  | cons l lead ih => simp [afterLead?, ih]

theorem afterLead?_eq_some {lead cs rest : List Char} :
    afterLead? lead cs = some rest ↔ cs = lead ++ rest := by
  constructor
  · intro h
    induction lead generalizing cs with
    | nil => simpa [afterLead?] using h
    | cons l lead ih =>
      cases cs with
      | nil => simp [afterLead?] at h
      | cons c cs =>
        by_cases hlc : l = c
        · subst hlc
          simp only [afterLead?, if_true] at h
          simp [ih h]
        · simp [afterLead?, hlc] at h
  · rintro rfl
    simp

/-- Whether `s` begins with `lead`. -/
def leads (lead s : String) : Bool := (afterLead? lead.toList s.toList).isSome

/-- What follows `lead` in `s`; all of `s` if it does not begin so. -/
def dropLead (lead s : String) : String :=
  match afterLead? lead.toList s.toList with
  | some rest => .ofList rest
  | none => s

/-- The text before and after the first occurrence of `mark`. -/
def cutAt? (mark : List Char) (cs : List Char) : Option (List Char × List Char) :=
  match afterLead? mark cs with
  | some rest => some ([], rest)
  | none =>
    match cs with
    | [] => none
    | c :: cs => (cutAt? mark cs).map fun (before, rest) => (c :: before, rest)

/-- Every part of a text between two occurrences of `mark`; a text without one is a single part. -/
def partsAt (mark : Char) : List Char → List (List Char)
  | [] => [[]]
  | c :: cs =>
    if c = mark then [] :: partsAt mark cs
    else
      match partsAt mark cs with
      | [] => [[c]]
      | part :: parts => (c :: part) :: parts

/-- The texts one after the other with `mark` between two of them. -/
def joined (mark : String) : List String → String
  | [] => ""
  | [s] => s
  | s :: rest => s ++ mark ++ joined mark rest

/-- `s` followed by blanks up to the given width. -/
def padRight (width : Nat) (s : String) : String :=
  s ++ .ofList (List.replicate (width - s.length) ' ')

/-- Text order is the order of code points. -/
def sortTexts (xs : List String) : List String := xs.mergeSort fun a b => decide (a ≤ b)

end Questline.Text
