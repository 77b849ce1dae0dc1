import Mathlib.Algebra.Group.Nat.Defs
import Mathlib.Data.List.Induction
import Questline.Proofs.Text.Blanks
import Questline.Tag
import Questline.Text.Case

/-!
# Numerals

A number is written with the digits of ASCII and without a zero in front.  Of
all runs of decimal digits these are the ones that come back when the number
they denote is written, and no run is shorter than what is written for it.  A
run of digits can be read unless one of them is no decimal digit, such as a
superscript, or there are too many of them.
-/

namespace Questline

namespace Text

/-- Digits as a number is written with them. -/
structure IsPlainNumeral (ds : List Char) : Prop where
  ne_nil : ds ≠ []
  digits : ∀ d ∈ ds, d.isDigit = true
  bare : ds.head? = some '0' → ds = ['0']

instance (ds : List Char) : Decidable (IsPlainNumeral ds) :=
  decidable_of_iff (ds ≠ [] ∧ ds.all Char.isDigit = true ∧ (ds.head? = some '0' → ds = ['0']))
    ⟨fun ⟨hne, hdigits, hbare⟩ => ⟨hne, List.all_eq_true.mp hdigits, hbare⟩,
      fun h => ⟨h.ne_nil, List.all_eq_true.mpr h.digits, h.bare⟩⟩

variable {ds : List Char} {d : Char} {n : Nat}

/-! ## Digits -/

theorem isDigit_iff_toNat : d.isDigit = true ↔ 48 ≤ d.toNat ∧ d.toNat ≤ 57 := by
  simp only [Char.isDigit, Bool.and_eq_true, decide_eq_true_eq, ge_iff_le]
  exact Iff.rfl

theorem digitChar_toNat_sub (h : d.isDigit = true) : (d.toNat - '0'.toNat).digitChar = d := by
  obtain ⟨hlow, hhigh⟩ := isDigit_iff_toNat.mp h
  have hzero : '0'.toNat = 48 := rfl
  apply Char.toNat_inj.mp
  rw [Nat.toNat_digitChar_of_lt_ten (by omega)]
  omega

theorem isAscii_of_isDigit (h : d.isDigit = true) : isAscii d = true := by
  obtain ⟨hlow, hhigh⟩ := isDigit_iff_toNat.mp h
  rw [isAscii, decide_eq_true_iff]
  omega

theorem decimalDigit?_of_isDigit (h : d.isDigit = true) :
    decimalDigit? d = some (d.toNat - '0'.toNat) := by
  obtain ⟨hlow, hhigh⟩ := isDigit_iff_toNat.mp h
  rw [decimalDigit?, if_pos (isAscii_of_isDigit h), if_pos]
  exact ⟨hlow, hhigh⟩

theorem isDigit_of_isDigit (h : d.isDigit = true) : isDigit d = true := by
  rw [isDigit, if_pos (isAscii_of_isDigit h), h]

theorem decimalDigit?_lt (h : decimalDigit? d = some n) : n < 10 := by
  unfold decimalDigit? at h
  split at h
  · split at h
    · next hrange =>
        obtain rfl := Option.some.inj h
        have hhigh : d.toNat ≤ 57 := hrange.2
        have hzero : '0'.toNat = 48 := rfl
        omega
    · contradiction
  · obtain ⟨first, -, rfl⟩ := Option.map_eq_some_iff.mp h
    exact Nat.mod_lt _ (by decide)

/-! ## Numbers -/

theorem numberOfDigits_append_singleton (xs : List Nat) (x : Nat) :
    numberOfDigits (xs ++ [x]) = 10 * numberOfDigits xs + x := by
  simp [numberOfDigits]

/-- A number has no more digits than it is denoted by. -/
theorem numberOfDigits_lt {xs : List Nat} (h : ∀ x ∈ xs, x < 10) :
    numberOfDigits xs < 10 ^ xs.length := by
  induction xs using List.reverseRecOn with
  | nil => decide
  | append_singleton xs x ih =>
      have hrest := ih fun y hy => h y (List.mem_append_left _ hy)
      have hlast := h x List.mem_concat_self
      rw [numberOfDigits_append_singleton, List.length_append, List.length_singleton, Nat.pow_succ]
      omega

theorem numberOfDigits_map_sub (ds : List Char) :
    numberOfDigits (ds.map fun d => d.toNat - '0'.toNat) = Nat.ofDigitChars 10 ds 0 := by
  rw [numberOfDigits, List.foldl_map, Nat.ofDigitChars_eq_foldl]

/-! ## Plain numerals -/

/-- A number is written as a plain numeral. -/
theorem isPlainNumeral_toDigits (n : Nat) : IsPlainNumeral (Nat.toDigits 10 n) where
  ne_nil := Nat.toDigits_ne_nil
  digits d hd := Nat.isDigit_of_mem_toDigits (by decide) (by decide) hd
  bare := by
    -- the first digit of a number is that of its tenth part, as long as this is not zero
    induction n using Nat.strongRecOn with
    | ind n ih =>
        by_cases hlt : n < 10
        · rw [Nat.toDigits_of_lt_base hlt]
          intro hzero
          rw [Option.some.inj hzero]
        · obtain ⟨d, rest, htenth⟩ := List.exists_cons_of_ne_nil
            (Nat.toDigits_ne_nil (n := n / 10) (b := 10))
          rw [Nat.toDigits_of_base_le (by decide) (by omega)]
          intro hzero
          have hrest : Nat.toDigits 10 (n / 10) = ['0'] := by
            apply ih (n / 10) (by omega)
            rw [htenth] at hzero ⊢
            exact hzero
          have hnumber : Nat.ofDigitChars 10 (Nat.toDigits 10 (n / 10)) 0 = n / 10 :=
            Nat.ofDigitChars_ten_toDigits
          rw [hrest] at hnumber
          have hnone : (0 : Nat) = n / 10 := hnumber
          omega

theorem isDecimalDigit_of_isDigit (h : d.isDigit = true) : isDecimalDigit d = true := by
  rw [isDecimalDigit, decimalDigit?_of_isDigit h]
  rfl

theorem isDecimalDigit_of_mem_toDigits (h : d ∈ Nat.toDigits 10 n) : isDecimalDigit d = true :=
  isDecimalDigit_of_isDigit ((isPlainNumeral_toDigits n).digits d h)

theorem toDigits_append {acc : Nat} (hacc : 0 < acc) (h : ∀ d ∈ ds, d.isDigit = true) :
    Nat.toDigits 10 acc ++ ds = Nat.toDigits 10 (Nat.ofDigitChars 10 ds acc) := by
  induction ds generalizing acc with
  | nil => rw [List.append_nil, Nat.ofDigitChars_nil]
  | cons d ds ih =>
      rw [List.forall_mem_cons] at h
      obtain ⟨hlow, hhigh⟩ := isDigit_iff_toNat.mp h.1
      have hzero : '0'.toNat = 48 := rfl
      have hvalue : d.toNat - '0'.toNat < 10 := by omega
      calc Nat.toDigits 10 acc ++ d :: ds = (Nat.toDigits 10 acc ++ [d]) ++ ds := by simp
        _ = Nat.toDigits 10 (10 * acc + (d.toNat - '0'.toNat)) ++ ds := by
            rw [← Nat.toDigits_append_toDigits (by decide) hacc hvalue,
              Nat.toDigits_of_lt_base hvalue, digitChar_toNat_sub h.1]
        _ = Nat.toDigits 10 (Nat.ofDigitChars 10 (d :: ds) acc) := by
            rw [ih (by omega) h.2, Nat.ofDigitChars_cons]

/-- A plain numeral is how its number is written. -/
theorem toDigits_ofDigitChars (h : IsPlainNumeral ds) :
    Nat.toDigits 10 (Nat.ofDigitChars 10 ds 0) = ds := by
  cases ds with
  | nil => exact absurd rfl h.ne_nil
  | cons d ds =>
      by_cases hbare : d = '0'
      · rw [h.bare (congrArg some hbare)]
        rfl
      · have hdigits := List.forall_mem_cons.mp h.digits
        obtain ⟨hlow, hhigh⟩ := isDigit_iff_toNat.mp hdigits.1
        have hzero : '0'.toNat = 48 := rfl
        have hfirst : d.toNat ≠ '0'.toNat := fun heq => hbare (Char.toNat_inj.mp heq)
        rw [Nat.ofDigitChars_cons, ← toDigits_append (by omega) hdigits.2,
          Nat.toDigits_of_lt_base (by omega), Nat.mul_zero, Nat.zero_add,
          digitChar_toNat_sub hdigits.1]
        rfl

/-! ## Reading runs of digits -/

theorem isBlank_eq_false_of_isDigit (h : isDigit d = true) : isBlank d = false := by
  by_contra hblank
  have hcodes : ∀ n ∈ [0x85, 0xa0, 0x1680, 0x2028, 0x2029, 0x202f, 0x205f, 0x3000] ++
      List.range' 0x2000 11, CharTable.digit.contains n = false := by
    decide +kernel
  unfold isDigit at h
  split at h
  · have hrange := isDigit_iff_toNat.mp h
    simp [isBlank] at hblank
    omega
  · next hascii =>
      have hmem : d.toNat ∈ [0x85, 0xa0, 0x1680, 0x2028, 0x2029, 0x202f, 0x205f, 0x3000] ++
          List.range' 0x2000 11 := by
        simp [isBlank, isAscii] at hblank hascii
        simp
        omega
      rw [hcodes _ hmem] at h
      contradiction

theorem ne_of_isDigit (h : isDigit d = true) : d ≠ '_' ∧ d ≠ '-' ∧ d ≠ '+' := by
  refine ⟨?_, ?_, ?_⟩ <;>
  · rintro rfl
    contradiction

theorem withoutUnderscores?_of_isDigit (h : ∀ d ∈ ds, isDigit d = true) :
    withoutUnderscores? ds = some ds := by
  induction ds with
  | nil => rfl
  | cons d ds ih =>
      obtain ⟨hd, hds⟩ := List.forall_mem_cons.mp h
      have hbare : d ≠ '_' := (ne_of_isDigit hd).1
      have hrest := ih hds
      unfold withoutUnderscores?
      split
      · contradiction
      · next heq => exact absurd (List.cons.inj heq).1 hbare
      · next heq => exact absurd (List.cons.inj heq).1 hbare
      · next heq =>
          -- the second digit is no underscore either
          obtain ⟨rfl, rfl⟩ := List.cons.inj heq
          exact absurd rfl (ne_of_isDigit (hds '_' List.mem_cons_self)).1
      · next heq =>
          obtain ⟨rfl, rfl⟩ := List.cons.inj heq
          rw [hrest]
          rfl

theorem digitValues?_cons (d : Char) (ds : List Char) :
    digitValues? (d :: ds) =
      (decimalDigit? d).bind fun x => (digitValues? ds).map fun xs => x :: xs := by
  rw [digitValues?]
  cases decimalDigit? d <;> cases digitValues? ds <;> rfl

theorem length_of_digitValues? {xs : List Nat} (h : digitValues? ds = some xs) :
    xs.length = ds.length := by
  induction ds generalizing xs with
  | nil =>
      obtain rfl := Option.some.inj h
      rfl
  | cons d ds ih =>
      rw [digitValues?_cons, Option.bind_eq_some_iff] at h
      obtain ⟨x, -, h⟩ := h
      obtain ⟨rest, hrest, rfl⟩ := Option.map_eq_some_iff.mp h
      rw [List.length_cons, List.length_cons, ih hrest]

theorem digitValues?_eq_none_iff :
    digitValues? ds = none ↔ ∃ d ∈ ds, isDecimalDigit d = false := by
  induction ds with
  | nil => simp [digitValues?]
  | cons d ds ih =>
      rw [digitValues?_cons]
      cases hd : decimalDigit? d with
      | none => simp [isDecimalDigit, hd]
      | some x => simp [isDecimalDigit, hd, ih]

/-- White space, signs and underscores play no part in a run of digits. -/
theorem integer?_of_isDigit {s : String} (h : ∀ d ∈ s.toList, isDigit d = true) :
    integer? s = (unsignedNumeral? s.toList).map Int.ofNat := by
  have hcore : ∀ {cs : List Char}, (∀ d ∈ cs, isDigit d = true) →
      cs.dropWhile isNumeralBlank = cs := by
    intro cs hcs
    cases cs with
    | nil => rfl
    | cons d cs =>
        have hd := isBlank_eq_false_of_isDigit (hcs d List.mem_cons_self)
        simp [isNumeralBlank, hd]
  unfold integer?
  rw [hcore h, hcore (by simpa using h), List.reverse_reverse]
  dsimp only
  split
  · next heq => exact absurd rfl (ne_of_isDigit (h '-' (by simp [heq]))).2.1
  · next heq => exact absurd rfl (ne_of_isDigit (h '+' (by simp [heq]))).2.2
  · rfl

/-- A run of digits that cannot be read has one that is no decimal digit, or too many of them. -/
theorem integer?_eq_none_iff {s : String} (hne : s.toList ≠ [])
    (h : ∀ d ∈ s.toList, isDigit d = true) :
    integer? s = none ↔
      (∃ d ∈ s.toList, isDecimalDigit d = false) ∨ digitLimit < s.toList.length := by
  rw [integer?_of_isDigit h, Option.map_eq_none_iff, ← digitValues?_eq_none_iff, unsignedNumeral?,
    withoutUnderscores?_of_isDigit h]
  cases hvalues : digitValues? s.toList with
  | none => simp [hvalues]
  | some xs =>
      have hlength := length_of_digitValues? hvalues
      have hxs : xs ≠ [] := by
        rintro rfl
        exact hne (List.length_eq_zero_iff.mp hlength.symm)
      simp [hvalues, hxs, hlength]

theorem digitValues?_of_isDigit (h : ∀ d ∈ ds, d.isDigit = true) :
    digitValues? ds = some (ds.map fun d => d.toNat - '0'.toNat) := by
  induction ds with
  | nil => rfl
  | cons d ds ih =>
      rw [List.forall_mem_cons] at h
      rw [digitValues?_cons, decimalDigit?_of_isDigit h.1, ih h.2]
      rfl

theorem unsignedNumeral?_of_isPlainNumeral (h : IsPlainNumeral ds)
    (hlength : ds.length ≤ digitLimit) :
    unsignedNumeral? ds = some (Nat.ofDigitChars 10 ds 0) := by
  have hdigits : ∀ d ∈ ds, isDigit d = true := fun d hd => isDigit_of_isDigit (h.digits d hd)
  rw [← numberOfDigits_map_sub, unsignedNumeral?, withoutUnderscores?_of_isDigit hdigits]
  simp [digitValues?_of_isDigit h.digits, h.ne_nil, hlength]

/-! ## Written numbers -/

theorem toList_toString (n : Nat) : (toString n).toList = Nat.toDigits 10 n := by
  rw [Nat.toString_eq_repr, Nat.toList_repr]

theorem isDigit_of_mem_toString (h : d ∈ (toString n).toList) : d.isDigit = true :=
  (isPlainNumeral_toDigits n).digits d (toList_toString n ▸ h)

/-- What is written of a number can be read. -/
theorem integer?_toString (h : isWritable n = true) : integer? (toString n) = some (n : Int) := by
  rw [integer?_of_isDigit fun d hd => isDigit_of_isDigit (isDigit_of_mem_toString hd),
    toList_toString,
    unsignedNumeral?_of_isPlainNumeral (isPlainNumeral_toDigits n) (of_decide_eq_true h),
    Nat.ofDigitChars_ten_toDigits]
  rfl

theorem trim_toString (n : Nat) : trim (toString n) = toString n := by
  have hbare : ∀ d ∈ (toString n).toList, isBlank d = false := by
    intro d hd
    exact isBlank_eq_false_of_isDigit (isDigit_of_isDigit (isDigit_of_mem_toString hd))
  rw [trim_eq_self_iff]
  constructor
  · intro d hd
    exact hbare d (List.mem_of_head? hd)
  · intro d hd
    exact hbare d (List.mem_of_getLast? hd)

theorem lowerChar_of_isDigit (h : d.isDigit = true) : lowerChar d = [d] := by
  obtain ⟨hlow, hhigh⟩ := isDigit_iff_toNat.mp h
  have hbare : d.toLower = d := by
    refine dif_neg ?_
    rintro ⟨hupper, -⟩
    have hletter : 65 ≤ d.toNat := hupper
    omega
  rw [lowerChar, if_pos (isAscii_of_isDigit h), hbare]

theorem lowerChars_of_isDigit (h : ∀ d ∈ ds, d.isDigit = true) (casedBefore : Bool) :
    lowerChars casedBefore ds = ds := by
  induction ds generalizing casedBefore with
  | nil => rfl
  | cons d ds ih =>
      rw [List.forall_mem_cons] at h
      have hsigma : d ≠ capitalSigma := by
        rintro rfl
        exact absurd h.1 (by decide)
      rw [lowerChars, ih h.2, if_neg (fun hs => hsigma hs.1), lowerChar_of_isDigit h.1]
      rfl

theorem lower_toString (n : Nat) : lower (toString n) = toString n := by
  rw [lower, lowerChars_of_isDigit (fun d hd => isDigit_of_mem_toString hd), String.ofList_toList]

end Text

namespace Tag

open Text

variable {ds : List Char}

theorem digitsNumber_of_isDigit (h : ∀ d ∈ ds, d.isDigit = true) :
    digitsNumber ds = Nat.ofDigitChars 10 ds 0 := by
  have hvalues : ds.filterMap decimalDigit? = ds.map fun d => d.toNat - '0'.toNat := by
    induction ds with
    | nil => rfl
    | cons d ds ih =>
        rw [List.forall_mem_cons] at h
        rw [List.filterMap_cons_some (decimalDigit?_of_isDigit h.1), ih h.2, List.map_cons]
  rw [digitsNumber, hvalues, numberOfDigits_map_sub]

theorem digitsNumber_toDigits (n : Nat) : digitsNumber (Nat.toDigits 10 n) = n := by
  rw [digitsNumber_of_isDigit (isPlainNumeral_toDigits n).digits, Nat.ofDigitChars_ten_toDigits]

/-- Digits come back when their number is written exactly if they are a plain numeral. -/
theorem toDigits_digitsNumber_eq_iff :
    Nat.toDigits 10 (digitsNumber ds) = ds ↔ IsPlainNumeral ds := by
  constructor
  · intro h
    rw [← h]
    exact isPlainNumeral_toDigits _
  · intro h
    rw [digitsNumber_of_isDigit h.digits, toDigits_ofDigitChars h]

theorem length_toDigits_digitsNumber_le (hne : ds ≠ []) :
    (Nat.toDigits 10 (digitsNumber ds)).length ≤ ds.length := by
  rw [Nat.length_toDigits_le_iff (by decide) (List.length_pos_iff.mpr hne)]
  have hvalues : ∀ x ∈ ds.filterMap decimalDigit?, x < 10 := by
    intro x hx
    obtain ⟨d, -, hd⟩ := List.mem_filterMap.mp hx
    exact decimalDigit?_lt hd
  calc digitsNumber ds < 10 ^ (ds.filterMap decimalDigit?).length := numberOfDigits_lt hvalues
    _ ≤ 10 ^ ds.length := Nat.pow_le_pow_right (by decide) (List.length_filterMap_le _ _)

end Tag

end Questline
