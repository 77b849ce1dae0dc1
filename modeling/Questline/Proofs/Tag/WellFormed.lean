import Questline.Proofs.Attempt
import Questline.Proofs.Tag.Spelling

/-!
# Well-formed tags

Not every tag is what some token is read as: its name may begin with what is
taken for a mark or end in what is taken for a comparison, and it may compare
where its operator never does.  The well-formed tags are those without such a
fault, and exactly these are read back from what is written for them.
-/

namespace Questline

namespace Operator

variable {cs rest : List Char} {operator : Operator}

/-- The operators that have a mark of their own. -/
def known : List Operator :=
  [.require, .prefer, .forbid, .grant, .consume, .baseRequire, .baseForbid]

/-- What marks begin with. -/
def marks : List Char := ['^', '@', '!', '+', '-']

/-- Characters that are not taken for a part of the mark in front of them: where there is no mark
they do not begin one, and behind `^` they do not make a longer one of it. -/
structure Precedes (operator : Operator) (rest : List Char) : Prop where
  unmarked : operator = .require → ∀ c ∈ marks, rest.head? ≠ some c
  lone : operator = .baseRequire → rest.head? ≠ some '!'

theorem Precedes.of_head? {name : List Char} (h : operator.Precedes rest)
    (hhead : rest.head? = name.head?) : operator.Precedes name := by
  constructor
  · rw [← hhead]
    exact h.unmarked
  · rw [← hhead]
    exact h.lone

theorem known_of_split (h : split cs = (operator, rest)) : operator ∈ known := by
  unfold split at h
  split at h
  all_goals
    obtain ⟨rfl, -⟩ := Prod.mk.inj h
    decide

theorem precedes_of_split (h : split cs = (operator, rest)) : operator.Precedes rest := by
  unfold split at h
  split at h
  all_goals
    obtain ⟨rfl, rfl⟩ := Prod.mk.inj h
    constructor
    all_goals
      intro hoperator
      try contradiction
  · next hlone =>
      intro hhead
      obtain ⟨tail, htail⟩ := List.head?_eq_some_iff.mp hhead
      exact hlone tail htail
  · intro c hc hhead
    obtain ⟨tail, rfl⟩ := List.head?_eq_some_iff.mp hhead
    simp only [marks, List.mem_cons, List.not_mem_nil, or_false] at hc
    rcases hc with rfl | rfl | rfl | rfl | rfl
    all_goals simp_all

theorem split_mark_append (hknown : operator ∈ known) (h : operator.Precedes rest) :
    split (operator.mark.toList ++ rest) = (operator, rest) := by
  simp only [known, List.mem_cons, List.not_mem_nil, or_false] at hknown
  rcases hknown with rfl | rfl | rfl | rfl | rfl | rfl | rfl
  · change split rest = _
    have hhead := h.unmarked rfl
    simp only [marks, List.forall_mem_cons] at hhead
    unfold split
    split
    all_goals simp_all
  · rfl
  · rfl
  · rfl
  · rfl
  · change split ('^' :: rest) = _
    have hhead := h.lone rfl
    unfold split
    split
    all_goals simp_all
  · rfl

end Operator

namespace Tag

variable {token : String} {t : Tag} {operator : Operator} {comparison : Comparison}
  {name digits feed rest : List Char}

/-- A tag that compares: a name in a single line, one of the three relations, and a number that is
not negative and short enough to be written. -/
structure IsComparing (t : Tag) (comparison : Comparison) (n : Int) : Prop where
  comparison_eq : t.comparison = some comparison
  value_eq : t.value = some n
  known : comparison ∈ [.equal, .less, .greater]
  nonneg : 0 ≤ n
  writable : Text.isWritable n = true
  named : t.name ≠ ""
  inOneLine : '\n' ∉ t.name.toList

/-- A tag with neither a comparison nor a number. -/
structure IsBare (t : Tag) : Prop where
  comparison_eq : t.comparison = none
  value_eq : t.value = none

structure IsWellFormed (t : Tag) : Prop where
  known : t.operator ∈ Operator.known
  precedes : t.operator.Precedes t.name.toList
  bare : t.isMutation = true → t.IsBare
  tests : t.isMutation = false → (∃ comparison n, t.IsComparing comparison n) ∨
    t.IsBare ∧ ∀ name comparison digits feed,
      ¬ IsComparison t.name.toList name comparison digits feed

theorem write_eq_ok_iff : t.write = .ok token ↔ t.isWritable = true ∧ t.format = token := by
  unfold write
  cases t.isWritable <;> simp

/-! ## What is read -/

theorem ofToken_of_compares (h : Compares token operator name comparison digits feed) :
    ofToken token = ⟨operator, .ofList name, some comparison, some (digitsNumber digits)⟩ := by
  rw [ofToken, parts_of_compares h, ofParts]

theorem isWritable_digitsNumber (hne : digits ≠ []) (h : digits.length ≤ Text.digitLimit) :
    Text.isWritable (digitsNumber digits) = true :=
  decide_eq_true (Nat.le_trans (length_toDigits_digitsNumber_le hne) h)

theorem isWellFormed_of_compares (h : Compares token operator name comparison digits feed)
    (hreadable : isReadable token = true) : (ofToken token).IsWellFormed := by
  obtain ⟨rest, hsplit, hrest⟩ := h.compared
  rw [isReadable_of_compares h, decide_eq_true_iff] at hreadable
  rw [ofToken_of_compares h]
  refine ⟨Operator.known_of_split hsplit, ?_, ?_, ?_⟩
  · apply (Operator.precedes_of_split hsplit).of_head?
    rw [String.toList_ofList, hrest.parts, List.append_assoc, List.append_assoc,
      List.head?_append_of_ne_nil _ hrest.named]
  · intro hmutation
    exact absurd (h.tests.symm.trans hmutation) Bool.false_ne_true
  · intro _
    refine .inl ⟨comparison, digitsNumber digits, rfl, rfl, hrest.known, Int.natCast_nonneg _,
      isWritable_digitsNumber hrest.numbered hreadable, ?_, ?_⟩
    · rw [ne_eq, ← String.toList_inj, String.toList_ofList]
      exact hrest.named
    · rw [String.toList_ofList]
      exact hrest.inOneLine

theorem isWellFormed_of_parts (h : parts token.toList = (operator, rest, none)) :
    (ofToken token).IsWellFormed := by
  have hsplit := split_of_parts h
  rw [ofToken, h, ofParts]
  refine ⟨Operator.known_of_split hsplit, ?_, fun _ => ⟨rfl, rfl⟩, ?_⟩
  · rw [String.toList_ofList]
    exact Operator.precedes_of_split hsplit
  · intro htests
    refine .inr ⟨⟨rfl, rfl⟩, ?_⟩
    rw [String.toList_ofList]
    intro name comparison digits feed hcompared
    -- a token whose rest compares has a comparison
    have hcompares : Compares token operator name comparison digits feed :=
      ⟨htests, rest, hsplit, hcompared⟩
    rw [parts_of_compares hcompares] at h
    cases h

theorem isWellFormed_of_read (h : read token = .ok t) : t.IsWellFormed := by
  obtain ⟨hreadable, rfl⟩ := read_eq_ok_iff.mp h
  rcases exists_compares_or token with ⟨operator, name, comparison, digits, feed, hcompares⟩ |
    ⟨operator, rest, hparts⟩
  · exact isWellFormed_of_compares hcompares hreadable
  · exact isWellFormed_of_parts hparts

/-! ## What is written -/

theorem parts_of_split (hsplit : Operator.split token.toList = (operator, rest))
    (h : operator.isMutation = false → splitComparison? rest = none) :
    parts token.toList = (operator, rest, none) := by
  unfold parts
  rw [hsplit]
  cases hmutation : operator.isMutation with
  | true => simp [hmutation]
  | false => simp [hmutation, h hmutation]

theorem IsComparing.toList_format {n : Nat} (h : t.IsComparing comparison n) :
    t.format.toList = t.operator.mark.toList ++
      (t.name.toList ++ comparison.mark.toList ++ Nat.toDigits 10 n) := by
  have hnumber : toString (n : Int) = String.ofList (Nat.toDigits 10 n) :=
    Nat.repr_eq_ofList_toDigits
  simp [format, h.comparison_eq, h.value_eq, hnumber]

/-- What is written for a tag that compares, compares. -/
theorem IsComparing.compares {n : Nat} (h : t.IsComparing comparison n)
    (hwell : t.IsWellFormed) (htests : t.isMutation = false) :
    Compares t.format t.operator t.name.toList comparison (Nat.toDigits 10 n) [] := by
  have hname : t.name.toList ≠ [] := by
    rw [ne_eq, String.toList_eq_nil_iff]
    exact h.named
  refine ⟨htests, t.name.toList ++ comparison.mark.toList ++ Nat.toDigits 10 n, ?_, ?_⟩
  · rw [h.toList_format]
    apply Operator.split_mark_append hwell.known
    apply hwell.precedes.of_head?
    rw [List.append_assoc, List.head?_append_of_ne_nil _ hname]
  · exact ⟨(List.append_nil _).symm, hname, h.inOneLine, h.known, Nat.toDigits_ne_nil,
      fun _ => Text.isDecimalDigit_of_mem_toDigits, .inl rfl⟩

/-- A name, the mark of a comparison and digits make a token that compares under no mark. -/
theorem compares_ofList (hmarks : Operator.Precedes .require name)
    (h : IsComparison (name ++ comparison.mark.toList ++ digits) name comparison digits []) :
    Compares (.ofList (name ++ comparison.mark.toList ++ digits)) .require name comparison digits
      [] := by
  refine ⟨rfl, name ++ comparison.mark.toList ++ digits, ?_, h⟩
  have hmarked : Operator.Precedes .require (name ++ comparison.mark.toList ++ digits) := by
    apply hmarks.of_head?
    rw [List.append_assoc, List.head?_append_of_ne_nil _ h.named]
  rw [String.toList_ofList]
  exact Operator.split_mark_append (by decide) hmarked

/-- A token that asks for so many coins as are written with `n` ones. -/
def coinsOfOnes (n : Nat) : String :=
  .ofList ("coin".toList ++ Comparison.equal.mark.toList ++ List.replicate n '1')

theorem isReadable_coinsOfOnes {n : Nat} (hn : n ≠ 0) :
    isReadable (coinsOfOnes n) = decide (n ≤ Text.digitLimit) := by
  have hmarks : Operator.Precedes .require "coin".toList :=
    ⟨fun _ => by simp [Operator.marks], by decide⟩
  have hones : ∀ d ∈ List.replicate n '1', Text.isDecimalDigit d = true := by
    intro d hd
    rw [List.eq_of_mem_replicate hd]
    exact Text.isDecimalDigit_of_isDigit rfl
  have hcomparison : IsComparison
      ("coin".toList ++ Comparison.equal.mark.toList ++ List.replicate n '1') "coin".toList .equal
      (List.replicate n '1') [] :=
    ⟨(List.append_nil _).symm, by decide, by decide, by decide, by simpa using hn, hones, .inl rfl⟩
  have hcompares : Compares (coinsOfOnes n) .require "coin".toList .equal
      (List.replicate n '1') [] :=
    compares_ofList hmarks hcomparison
  rw [isReadable_of_compares hcompares, List.length_replicate]

theorem isReadable_too_many_ones : isReadable (coinsOfOnes (Text.digitLimit + 1)) = false := by
  rw [isReadable_coinsOfOnes (Nat.succ_ne_zero _)]
  exact decide_eq_false (Nat.not_succ_le_self _)

theorem IsComparing.read_format {n : Nat} (h : t.IsComparing comparison n)
    (hwell : t.IsWellFormed) (htests : t.isMutation = false) : read t.format = .ok t := by
  have hcompares := h.compares hwell htests
  refine read_eq_ok_iff.mpr ⟨?_, ?_⟩
  · rw [isReadable_of_compares hcompares]
    exact h.writable
  · obtain ⟨operator, name, _, _⟩ := t
    obtain ⟨rfl, rfl⟩ : _ ∧ _ := ⟨h.comparison_eq, h.value_eq⟩
    rw [ofToken_of_compares hcompares, digitsNumber_toDigits, String.ofList_toList]

theorem IsBare.read_format (h : t.IsBare) (hwell : t.IsWellFormed)
    (hunmatched : t.isMutation = false → splitComparison? t.name.toList = none) :
    read t.format = .ok t := by
  obtain ⟨operator, name, _, _⟩ := t
  obtain ⟨rfl, rfl⟩ : _ ∧ _ := ⟨h.comparison_eq, h.value_eq⟩
  have hformat : (format ⟨operator, name, none, none⟩).toList =
      operator.mark.toList ++ name.toList := by
    simp [format]
  have hsplit := Operator.split_mark_append hwell.known hwell.precedes
  rw [← hformat] at hsplit
  have hparts := parts_of_split hsplit hunmatched
  refine read_eq_ok_iff.mpr ⟨?_, ?_⟩
  · rw [isReadable, hparts]
  · rw [ofToken, hparts, ofParts, String.ofList_toList]

theorem IsWellFormed.isWritable (h : t.IsWellFormed) : t.isWritable = true := by
  have hbare : t.IsBare → t.isWritable = true := by
    intro hbare
    rw [Tag.isWritable, hbare.comparison_eq]
  cases hmutation : t.isMutation with
  | true => exact hbare (h.bare hmutation)
  | false =>
      rcases h.tests hmutation with ⟨comparison, n, hcomparing⟩ | ⟨hplain, -⟩
      · rw [Tag.isWritable, hcomparing.comparison_eq, hcomparing.value_eq]
        exact hcomparing.writable
      · exact hbare hplain

theorem IsWellFormed.read_format (h : t.IsWellFormed) : read t.format = .ok t := by
  cases hmutation : t.isMutation with
  | true => exact (h.bare hmutation).read_format h fun htests => absurd hmutation (by simp [htests])
  | false =>
      rcases h.tests hmutation with ⟨comparison, n, hcomparing⟩ | ⟨hplain, hunmatched⟩
      · obtain ⟨n, rfl⟩ := Int.eq_ofNat_of_zero_le hcomparing.nonneg
        exact hcomparing.read_format h hmutation
      · apply hplain.read_format h
        intro _
        rw [Option.eq_none_iff_forall_ne_some]
        rintro ⟨name, comparison, digits⟩ hsplit
        obtain ⟨feed, hcompared⟩ := isComparison_of_splitComparison? hsplit
        exact hunmatched name comparison digits feed hcompared

/-- A tag is read back from what is written for it exactly if it is well-formed; and whatever a
token is read as is well-formed, so that reading, writing and reading again ends where reading
did. -/
theorem read_write_iff :
    (∀ t : Tag, (t.write >>= read) = .ok t ↔ t.IsWellFormed) ∧
      ∀ token t, read token = .ok t → t.IsWellFormed ∧ (t.write >>= read) = .ok t := by
  have hback : ∀ t : Tag, t.IsWellFormed → (t.write >>= read) = .ok t := by
    intro t hwell
    rw [bind_eq_ok_iff]
    exact ⟨t.format, write_eq_ok_iff.mpr ⟨hwell.isWritable, rfl⟩, hwell.read_format⟩
  refine ⟨?_, ?_⟩
  · intro t
    refine ⟨?_, hback t⟩
    intro h
    obtain ⟨token, -, hread⟩ := bind_eq_ok_iff.mp h
    exact isWellFormed_of_read hread
  · intro token t hread
    have hwell := isWellFormed_of_read hread
    exact ⟨hwell, hback t hwell⟩

/-- A name may itself end in what looks like a comparison, as long as another one follows it. -/
example : (Tag.write ⟨.require, "coin=1", some .equal, some 2⟩ >>= read) =
    .ok ⟨.require, "coin=1", some .equal, some 2⟩ := by
  decide +kernel

end Tag

end Questline
