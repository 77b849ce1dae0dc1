import Mathlib.Tactic.Common
import Questline.Json.Reader
import Questline.Text.Quoted

/-!
# Reading quoted texts

A quoted text is read back as the text it was made from, whatever follows it.  So
a quoted text at the beginning of another text can be told from what comes after
it.
-/

namespace Questline

open Text

namespace Json

variable {c : Char} {cs ds rest rest' : List Char} {us : List Nat} {n : Nat}

/-! ## UTF-16 units -/

/-- The units that are collected for a character. -/
def unitsOf (c : Char) : List Nat :=
  if c.toNat < 0x10000 then [c.toNat]
  else [0xd800 + (c.toNat - 0x10000) / 0x400, 0xdc00 + (c.toNat - 0x10000) % 0x400]

theorem toNat_lt (c : Char) : c.toNat < 0xd800 ∨ 0xdfff < c.toNat ∧ c.toNat < 0x110000 := c.valid

theorem charsOfUnits_cons (h : ¬ (0xd800 ≤ n ∧ n < 0xe000)) (us : List Nat) :
    charsOfUnits (n :: us) = Char.ofNat n :: charsOfUnits us := by
  cases us with
  | nil => simp only [charsOfUnits, if_neg h]
  | cons u us =>
      rw [charsOfUnits, if_neg h, if_neg]
      omega

theorem charsOfUnits_unitsOf_append (c : Char) (us : List Nat) :
    charsOfUnits (unitsOf c ++ us) = c :: charsOfUnits us := by
  have hvalid := toNat_lt c
  unfold unitsOf
  split
  · rw [List.singleton_append, charsOfUnits_cons (by omega), Char.ofNat_toNat]
  · have hcode : 0x10000 + (0xd800 + (c.toNat - 0x10000) / 0x400 - 0xd800) * 0x400 +
        (0xdc00 + (c.toNat - 0x10000) % 0x400 - 0xdc00) = c.toNat := by
      omega
    rw [List.cons_append, List.singleton_append, charsOfUnits, if_pos (by omega), hcode,
      Char.ofNat_toNat]

theorem charsOfUnits_flatMap (cs : List Char) : charsOfUnits (cs.flatMap unitsOf) = cs := by
  induction cs with
  | nil => rfl
  | cons c cs ih => rw [List.flatMap_cons, charsOfUnits_unitsOf_append, ih]

/-! ## Escapes -/

theorem hexDigitValue?_hexDigit (n : Nat) : hexDigitValue? (hexDigit n) = some (n % 16) := by
  have hall : ∀ d < 16, hexDigitValue? (Nat.digitChar d) = some d := by decide
  exact hall _ (Nat.mod_lt n (by decide))

theorem scan_unit_hexDigit (us : List Nat) (digits value n : Nat) (rest : List Char) :
    scan (.unit us digits value) (hexDigit n :: rest) =
      scan (if digits = 3 then .text ((value * 16 + n % 16) :: us)
        else .unit us (digits + 1) (value * 16 + n % 16)) rest := by
  by_cases hlast : digits = 3 <;> simp [scan, scanChar, hexDigitValue?_hexDigit, hlast]

theorem scan_unitEscape (h : n < 0x10000) (us : List Nat) (rest : List Char) :
    scan (.text us) (unitEscape n ++ rest) = scan (.text (n :: us)) rest := by
  have hvalue : (((0 * 16 + n / 16 / 16 / 16 % 16) * 16 + n / 16 / 16 % 16) * 16 +
      n / 16 % 16) * 16 + n % 16 = n := by
    omega
  calc scan (.text us) (unitEscape n ++ rest)
      = scan (.unit us 0 0) (hexText 4 n ++ rest) := rfl
    _ = scan (.text (n :: us)) rest := by
      simp only [hexText, List.nil_append, List.cons_append, scan_unit_hexDigit, hvalue,
        Nat.reduceAdd, Nat.reduceEqDiff, if_false, if_true]

/-- What stands for a character in a quoted text is collected as the units of the character. -/
theorem scan_escapeAscii (c : Char) (us : List Nat) (rest : List Char) :
    scan (.text us) (escapeAscii c ++ rest) = scan (.text ((unitsOf c).reverse ++ us)) rest := by
  have hvalid := toNat_lt c
  have hunits : c.toNat < 128 → unitsOf c = [c.toNat] := fun h => if_pos (by omega)
  fun_cases escapeAscii c
  case case1 heq | case2 heq | case3 heq | case4 heq | case5 heq =>
    subst heq
    rfl
  case case6 heq | case7 heq =>
    rw [hunits (by omega), heq]
    rfl
  case case8 hquote hbackslash _ _ _ _ _ hplain =>
    rw [hunits (by omega), List.singleton_append, scan, scanChar, if_neg hquote,
      if_neg hbackslash, if_neg (by omega)]
    rfl
  case case9 =>
    unfold escapeUnits unitsOf
    split
    · next hsmall => exact scan_unitEscape hsmall us rest
    · rw [List.append_assoc, scan_unitEscape (by omega), scan_unitEscape (by omega)]
      rfl

theorem scan_flatMap_escapeAscii (cs : List Char) (us : List Nat) (rest : List Char) :
    scan (.text us) (cs.flatMap escapeAscii ++ rest) =
      scan (.text ((cs.flatMap unitsOf).reverse ++ us)) rest := by
  induction cs generalizing us with
  | nil => rfl
  | cons c cs ih =>
      rw [List.flatMap_cons, List.append_assoc, scan_escapeAscii, ih, List.flatMap_cons,
        List.reverse_append, List.append_assoc]

/-! ## Quoted texts -/

/-- A quoted text is one token, and what follows it is read on its own. -/
theorem scan_quoteAsciiChars (cs rest : List Char) :
    scan .outside (quoteAsciiChars cs ++ rest) =
      .text (.ofList cs) :: scan .outside rest := by
  calc scan .outside (quoteAsciiChars cs ++ rest)
      = scan (.text []) (cs.flatMap escapeAscii ++ '"' :: rest) := by
        rw [quoteAsciiChars, List.cons_append, List.cons_append, List.append_assoc]
        rfl
    _ = .text (.ofList (charsOfUnits (cs.flatMap unitsOf))) :: scan .outside rest := by
        rw [scan_flatMap_escapeAscii, List.append_nil, scan, scanChar, if_pos rfl,
          List.reverse_reverse]
        rfl
    _ = .text (.ofList cs) :: scan .outside rest := by rw [charsOfUnits_flatMap]

theorem quoteAsciiChars_append_inj
    (h : quoteAsciiChars cs ++ rest = quoteAsciiChars ds ++ rest') : cs = ds ∧ rest = rest' := by
  have htokens := congrArg (scan .outside) h
  rw [scan_quoteAsciiChars, scan_quoteAsciiChars, List.cons.injEq, Token.text.injEq,
    String.ofList_inj] at htokens
  obtain ⟨rfl, -⟩ := htokens
  exact ⟨rfl, List.append_cancel_left h⟩

end Json

end Questline
