import Questline.Text.Case
import Questline.Text.Trim
import Mathlib.Tactic.Common

/-!
# White space at the ends of a text

Trimming leaves a text alone exactly if no white space stands at its ends.  The
map to lower case leaves white space where it is and makes none of anything
else, so two texts that it makes equal are trimmed or not trimmed alike.
-/

namespace Questline.Text

variable {c d : Char} {cs ds : List Char} {s t : String} {casedBefore : Bool}

/-- No white space stands at the ends. -/
structure IsTrimmed (cs : List Char) : Prop where
  head : ∀ c ∈ cs.head?, isBlank c = false
  last : ∀ c ∈ cs.getLast?, isBlank c = false

/-! ## Trimming -/

theorem isBlank_head_dropWhile (h : c ∈ (cs.dropWhile isBlank).head?) : isBlank c = false := by
  have hhead := List.head?_dropWhile_not isBlank cs
  rwa [Option.mem_def.mp h] at hhead

theorem dropWhile_isBlank (h : ∀ c ∈ cs.head?, isBlank c = false) :
    cs.dropWhile isBlank = cs := by
  cases cs with
  | nil => rfl
  | cons c cs => rw [List.dropWhile_cons_of_neg (by simp [h c rfl])]

theorem isTrimmed_trimChars (cs : List Char) : IsTrimmed (trimChars cs) := by
  obtain ⟨rest, hrest⟩ : trimChars cs <+: trimLeft cs := by
    rw [← List.reverse_suffix, trimChars, trimRight, List.reverse_reverse]
    exact List.dropWhile_suffix isBlank
  constructor
  · intro c hc
    have hhead : c ∈ (cs.dropWhile isBlank).head? := by
      rw [← trimLeft, ← hrest, List.head?_append, Option.mem_def.mp hc]
      rfl
    exact isBlank_head_dropWhile hhead
  · intro c hc
    rw [trimChars, trimRight, List.getLast?_reverse] at hc
    exact isBlank_head_dropWhile hc

theorem trimChars_eq_self_iff : trimChars cs = cs ↔ IsTrimmed cs := by
  constructor
  · intro h
    rw [← h]
    exact isTrimmed_trimChars cs
  · intro h
    have hlast : ∀ c ∈ cs.reverse.head?, isBlank c = false := by
      rw [List.head?_reverse]
      exact h.last
    rw [trimChars, trimRight, trimLeft, dropWhile_isBlank h.head, dropWhile_isBlank hlast,
      List.reverse_reverse]

theorem trim_eq_self_iff : trim s = s ↔ IsTrimmed s.toList := by
  rw [← trimChars_eq_self_iff, trim, String.ext_iff, String.toList_ofList]

/-! ## Lower case -/

/-- The code points of white space, in ranges. -/
def blankRanges : List (Nat × Nat) :=
  [(0x9, 0xd), (0x1c, 0x20), (0x85, 0x85), (0xa0, 0xa0), (0x1680, 0x1680), (0x2000, 0x200a),
    (0x2028, 0x2028), (0x2029, 0x2029), (0x202f, 0x202f), (0x205f, 0x205f), (0x3000, 0x3000)]

theorem isBlank_iff :
    isBlank c = true ↔ ∃ range ∈ blankRanges, range.1 ≤ c.toNat ∧ c.toNat ≤ range.2 := by
  have hpoint : ∀ code, c.toNat = code ↔ code ≤ c.toNat ∧ c.toNat ≤ code := by
    intro code
    omega
  simp only [isBlank, Bool.or_eq_true, Bool.and_eq_true, decide_eq_true_eq, beq_iff_eq, hpoint,
    blankRanges, List.mem_cons, List.not_mem_nil, or_false, or_assoc, or_and_right, exists_or,
    exists_eq_left]

theorem exists_blankRange_of_isBlank_ofNat {n : Nat} (h : isBlank (Char.ofNat n) = true) :
    ∃ range ∈ blankRanges, range.1 ≤ n ∧ n ≤ range.2 := by
  rw [isBlank_iff] at h
  by_cases hvalid : n.isValidChar
  · rwa [Char.ofNat, dif_pos hvalid] at h
  · rw [Char.ofNat, dif_neg hvalid] at h
    obtain ⟨range, hrange, hwithin⟩ := h
    have hzero : ∀ range ∈ blankRanges, ¬ (range.1 ≤ 0 ∧ 0 ≤ range.2) := by
      decide +kernel
    exact absurd hwithin (hzero range hrange)

/-- No run of the map to lower case begins or ends at white space, or passes over it. -/
theorem lowerRuns_disjoint_blankRanges :
    ∀ run ∈ CharTable.lowerRuns.runs, ∀ range ∈ blankRanges,
      (run.2.1 < range.1 ∨ range.2 < run.1) ∧
        (run.2.2.2 + (run.2.1 - run.1) < range.1 ∨ range.2 < run.2.2.2) := by
  decide +kernel

/-- A run of the map to lower case leads from no white space to no white space. -/
theorem isBlank_of_lowerRuns {n : Nat} (h : CharTable.lowerRuns.image? c.toNat = some n) :
    isBlank c = false ∧ isBlank (Char.ofNat n) = false := by
  obtain ⟨⟨first, last, stride, target⟩, hrun, himage⟩ := List.exists_of_findSome?_eq_some h
  have hdisjoint := lowerRuns_disjoint_blankRanges _ hrun
  dsimp only at himage hdisjoint
  split at himage
  · next hwithin =>
      obtain rfl := Option.some.inj himage
      constructor
      · rw [← Bool.not_eq_true, isBlank_iff]
        rintro ⟨range, hrange, hblank⟩
        have hbefore := (hdisjoint range hrange).1
        omega
      · rw [← Bool.not_eq_true]
        intro hblank
        obtain ⟨range, hrange, hblank⟩ := exists_blankRange_of_isBlank_ofNat hblank
        have hbehind := (hdisjoint range hrange).2
        omega
  · contradiction

theorem eq_of_lowerSpecials {n : Nat} {codes : List Nat}
    (h : CharTable.lowerSpecials.image? n = some codes) : n = 0x130 ∧ codes = [0x69, 0x307] := by
  obtain ⟨entry, hentry, himage⟩ := List.exists_of_findSome?_eq_some h
  obtain rfl := List.mem_singleton.mp hentry
  dsimp only at himage
  split at himage
  · next hcode => exact ⟨hcode.symm, (Option.some.inj himage).symm⟩
  · contradiction

theorem isBlank_toLower (h : isAscii c = true) : isBlank c.toLower = isBlank c := by
  have hall : ∀ n < 128, isBlank (Char.ofNat n).toLower = isBlank (Char.ofNat n) := by
    decide +kernel
  have hc := hall c.toNat (of_decide_eq_true h)
  rwa [Char.ofNat_toNat] at hc

/-- A character has a lower case image, which is white space if the character is. -/
theorem isBlank_lowerChar (c : Char) :
    lowerChar c ≠ [] ∧ ∀ d ∈ lowerChar c, isBlank d = isBlank c := by
  unfold lowerChar
  split
  · next hascii => simpa using isBlank_toLower hascii
  · split
    · next codes hcodes =>
        obtain ⟨hcode, rfl⟩ := eq_of_lowerSpecials hcodes
        have hc : isBlank c = false := by
          rw [← Bool.not_eq_true, isBlank_iff, hcode]
          decide +kernel
        refine ⟨List.cons_ne_nil _ _, ?_⟩
        rw [hc, charsOfCodes, List.map_cons, List.map_singleton, List.forall_mem_cons,
          List.forall_mem_singleton]
        exact ⟨rfl, rfl⟩
    · cases himage : CharTable.lowerRuns.image? c.toNat with
      | none => simp
      | some n =>
          obtain ⟨hc, hn⟩ := isBlank_of_lowerRuns himage
          simp [hc, hn]

/-- What stands in a text for a character in lower case. -/
def lowerImage (casedBefore : Bool) (c : Char) (rest : List Char) : List Char :=
  if c = capitalSigma ∧ casedBefore ∧ !casedFollows rest then [finalSigma] else lowerChar c

theorem lowerChars_cons (casedBefore : Bool) (c : Char) (rest : List Char) :
    lowerChars casedBefore (c :: rest) = lowerImage casedBefore c rest ++
      lowerChars (if isCaseIgnorable c then casedBefore else isCased c) rest := rfl

theorem isBlank_lowerImage (casedBefore : Bool) (c : Char) (rest : List Char) :
    lowerImage casedBefore c rest ≠ [] ∧
      ∀ d ∈ lowerImage casedBefore c rest, isBlank d = isBlank c := by
  unfold lowerImage
  split
  · next hsigma =>
      rw [hsigma.1, List.forall_mem_singleton]
      exact ⟨List.cons_ne_nil _ _, rfl⟩
  · exact isBlank_lowerChar c

theorem head?_lowerChars (casedBefore : Bool) (cs : List Char) :
    (lowerChars casedBefore cs).head?.map isBlank = cs.head?.map isBlank := by
  cases cs with
  | nil => rfl
  | cons c rest =>
      obtain ⟨hne, himage⟩ := isBlank_lowerImage casedBefore c rest
      obtain ⟨d, ds, hds⟩ := List.exists_cons_of_ne_nil hne
      rw [lowerChars_cons, hds, List.cons_append, List.head?_cons, List.head?_cons,
        Option.map_some, Option.map_some, himage d (hds ▸ List.mem_cons_self)]

theorem getLast?_lowerChars (casedBefore : Bool) (cs : List Char) :
    (lowerChars casedBefore cs).getLast?.map isBlank = cs.getLast?.map isBlank := by
  -- No image is empty, so the image of the last character stands last.
  induction cs generalizing casedBefore with
  | nil => rfl
  | cons c rest ih =>
      rw [lowerChars_cons]
      cases rest with
      | nil =>
          obtain ⟨hne, himage⟩ := isBlank_lowerImage casedBefore c []
          rw [lowerChars, List.append_nil, List.getLast?_eq_some_getLast hne, Option.map_some,
            himage _ (List.getLast_mem hne)]
          rfl
      | cons e es =>
          have hrest := ih (if isCaseIgnorable c then casedBefore else isCased c)
          rw [List.getLast?_append, List.getLast?_cons_cons, ← hrest]
          cases hlast : (lowerChars (if isCaseIgnorable c then casedBefore else isCased c)
            (e :: es)).getLast? with
          | none =>
              rw [hlast, List.getLast?_cons] at hrest
              contradiction
          | some d => rfl

theorem IsTrimmed.of_ends (h : IsTrimmed cs) (hhead : ds.head?.map isBlank = cs.head?.map isBlank)
    (hlast : ds.getLast?.map isBlank = cs.getLast?.map isBlank) : IsTrimmed ds := by
  have hend : ∀ {x y : Option Char}, x.map isBlank = y.map isBlank →
      (∀ c ∈ y, isBlank c = false) → ∀ c ∈ x, isBlank c = false := by
    intro x y hsame hy c hc
    rw [Option.mem_def.mp hc, Option.map_some] at hsame
    obtain ⟨d, hd, hblank⟩ := Option.map_eq_some_iff.mp hsame.symm
    rw [← hblank]
    exact hy d hd
  exact ⟨hend hhead h.head, hend hlast h.last⟩

/-- A text that is, in lower case, what some trimmed text is, has been trimmed itself. -/
theorem trim_of_lower_eq_lower_trim (h : lower s = lower (trim t)) : trim s = s := by
  have hchars : lowerChars false s.toList = lowerChars false (trimChars t.toList) := by
    simpa only [lower, trim, String.ofList_inj, String.toList_ofList] using h
  have hlower : IsTrimmed (lowerChars false s.toList) := by
    rw [hchars]
    exact (isTrimmed_trimChars t.toList).of_ends (head?_lowerChars _ _) (getLast?_lowerChars _ _)
  rw [trim_eq_self_iff]
  exact hlower.of_ends (head?_lowerChars _ _).symm (getLast?_lowerChars _ _).symm

end Questline.Text
