import Mathlib.Data.List.TakeWhile
import Questline.Content.Place
import Questline.Proofs.Json.Quoted
import Questline.Proofs.Text.Numerals

/-!
# Addresses of places

The text of a place is put together from the texts of its parts.  A plain name
goes on to the next point or bracket, a position or a truth value to the bracket
that closes, and a quoted name to the quote at its end.  So the parts can be told
from one another, and no two places have the same text.
-/

namespace Questline

open Text

namespace Place

variable {cs ds rest rest' : List Char} {p q : PlacePart} {place place' : Place}

/-! ## Parts -/

/-- A name that is written without brackets. -/
def IsBare : PlacePart → Prop
  | .name s => isPlainName s.toList = true
  | _ => False

instance : DecidablePred IsBare
  | .name s => inferInstanceAs (Decidable (isPlainName s.toList = true))
  | .position _ => .isFalse id
  | .truth _ => .isFalse id

/-- What stands for a part, without the point or the brackets. -/
def inner : PlacePart → List Char
  | .position n => (toString n).toList
  | .truth b => (Json.bool b).describe.toList
  | .name s => if isPlainName s.toList then s.toList else quoteAsciiChars s.toList

/-- What is written for a part, at the beginning of a text or later in it. -/
def written (atStart : Bool) (p : PlacePart) : List Char :=
  if IsBare p then (if atStart then inner p else '.' :: inner p) else '[' :: (inner p ++ [']'])

theorem toList_extend (s : String) (p : PlacePart) :
    (extend s p).toList = s.toList ++ written s.isEmpty p := by
  cases p with
  | position n => simp [extend, written, inner, IsBare]
  | truth b => simp [extend, written, inner, IsBare]
  | name t =>
      by_cases hplain : isPlainName t.toList
      · cases hempty : s.isEmpty with
        | true => simp [extend, written, inner, IsBare, hplain, String.isEmpty_iff.mp hempty]
        | false => simp [extend, written, inner, IsBare, hplain, hempty]
      · simp [extend, written, inner, IsBare, hplain, quoteAscii]

/-! ## Where a part ends -/

theorem append_inj_of_stops {goesOn : Char → Bool} (hcs : ∀ c ∈ cs, goesOn c = true)
    (hds : ∀ d ∈ ds, goesOn d = true) (hrest : ∀ c ∈ rest.head?, goesOn c = false)
    (hrest' : ∀ c ∈ rest'.head?, goesOn c = false) (h : cs ++ rest = ds ++ rest') :
    cs = ds ∧ rest = rest' := by
  have hnil : ∀ {xs : List Char}, (∀ c ∈ xs.head?, goesOn c = false) →
      xs.takeWhile goesOn = [] := by
    intro xs hxs
    cases xs with
    | nil => rfl
    | cons c xs => simp [hxs c rfl]
  have htaken := congrArg (List.takeWhile goesOn) h
  rw [List.takeWhile_append_of_pos hcs, List.takeWhile_append_of_pos hds, hnil hrest, hnil hrest',
    List.append_nil, List.append_nil] at htaken
  subst htaken
  exact ⟨rfl, List.append_cancel_left h⟩

/-- The characters between a plain name and the part that comes next. -/
def opensPart (c : Char) : Bool := c == '.' || c == '['

theorem opensPart_eq_false_of_isPlainName (h : isPlainName cs = true) :
    ∀ c ∈ cs, opensPart c = false := by
  intro c hc
  by_contra hopens
  have hnone : isNameStart c = false ∧ isNameContinue c = false := by
    simp only [opensPart, Bool.not_eq_false, Bool.or_eq_true, beq_iff_eq] at hopens
    rcases hopens with rfl | rfl <;> decide
  cases cs with
  | nil => contradiction
  | cons d cs =>
      simp only [isPlainName, Bool.and_eq_true, List.all_eq_true] at h
      rcases List.mem_cons.mp hc with rfl | hc
      · exact absurd h.1 (by simp [hnone.1])
      · exact absurd (h.2 c hc) (by simp [hnone.2])

theorem IsBare.exists_name (h : IsBare p) :
    ∃ s, p = .name s ∧ isPlainName s.toList = true ∧ inner p = s.toList := by
  cases p with
  | name s => exact ⟨s, rfl, h, if_pos h⟩
  | position n => exact h.elim
  | truth b => exact h.elim

theorem IsBare.inner_ne_nil (h : IsBare p) : inner p ≠ [] := by
  obtain ⟨s, -, hplain, hinner⟩ := h.exists_name
  rw [hinner]
  intro hnil
  rw [hnil] at hplain
  contradiction

theorem IsBare.opensPart_eq_false (h : IsBare p) : ∀ c ∈ inner p, opensPart c = false := by
  obtain ⟨s, -, hplain, hinner⟩ := h.exists_name
  rw [hinner]
  exact opensPart_eq_false_of_isPlainName hplain

theorem IsBare.eq_of_inner_eq (hp : IsBare p) (hq : IsBare q) (h : inner p = inner q) : p = q := by
  obtain ⟨s, rfl, -, hs⟩ := hp.exists_name
  obtain ⟨t, rfl, -, ht⟩ := hq.exists_name
  rw [hs, ht, String.toList_inj] at h
  rw [h]

/-! ## Positions and truth values -/

theorem toList_toString_eq (n : Int) : (toString n).toList =
    (if 0 ≤ n then [] else ['-']) ++ Nat.toDigits 10 n.natAbs := by
  rw [Int.toString_eq_repr, Int.repr_eq_if]
  split
  · rw [Nat.toList_repr, List.nil_append]
    congr 1
    omega
  · rw [String.toList_append, Nat.toList_repr]
    congr 2
    omega

theorem isDigit_or_eq_of_mem_toString {n : Int} {c : Char} (h : c ∈ (toString n).toList) :
    c.isDigit = true ∨ c = '-' := by
  rw [toList_toString_eq, List.mem_append] at h
  rcases h with h | h
  · split at h
    · contradiction
    · exact .inr (List.mem_singleton.mp h)
  · exact .inl ((isPlainNumeral_toDigits n.natAbs).digits c h)

theorem eq_of_toList_toString_eq {m n : Int} (h : (toString m).toList = (toString n).toList) :
    m = n := by
  have hsign : ∀ n : Int, ∀ c ∈ (if 0 ≤ n then [] else ['-']), (c == '-') = true := by
    intro n c hc
    split at hc
    · contradiction
    · rw [List.mem_singleton.mp hc]
      rfl
  have hdigits : ∀ n : Int, ∀ c ∈ (Nat.toDigits 10 n.natAbs).head?, (c == '-') = false := by
    intro n c hc
    have hdigit := (isPlainNumeral_toDigits n.natAbs).digits c (List.mem_of_head? hc)
    rw [beq_eq_false_iff_ne]
    rintro rfl
    contradiction
  rw [toList_toString_eq, toList_toString_eq] at h
  obtain ⟨hsigns, habs⟩ := append_inj_of_stops (hsign m) (hsign n) (hdigits m) (hdigits n) h
  have habs := congrArg (Nat.ofDigitChars 10 · 0) habs
  simp only [Nat.ofDigitChars_ten_toDigits] at habs
  by_cases hm : 0 ≤ m <;> by_cases hn : 0 ≤ n <;> simp [hm, hn] at hsigns <;> omega

/-- A position or a truth value. -/
def IsIndex : PlacePart → Prop
  | .name _ => False
  | _ => True

theorem IsIndex.ne_of_mem_inner (h : IsIndex p) : ∀ c ∈ inner p, c ≠ ']' ∧ c ≠ '"' := by
  intro c hc
  cases p with
  | position n =>
      rcases isDigit_or_eq_of_mem_toString hc with hdigit | rfl
      · constructor <;> rintro rfl <;> contradiction
      · decide
  | truth b =>
      have hall : ∀ b, (inner (.truth b)).all (fun c => c != ']' && c != '"') = true := by decide
      simpa using List.all_eq_true.mp (hall b) c hc
  | name s => exact h.elim

theorem inner_position_ne_inner_truth (n : Int) (b : Bool) :
    inner (.position n) ≠ inner (.truth b) := by
  intro h
  have hletter : ∀ b, 'e' ∈ inner (.truth b) := by decide
  have hmem : 'e' ∈ inner (.position n) := h ▸ hletter b
  rcases isDigit_or_eq_of_mem_toString hmem with hdigit | hsign
  · contradiction
  · contradiction

theorem IsIndex.eq_of_inner_eq (hp : IsIndex p) (hq : IsIndex q) (h : inner p = inner q) :
    p = q := by
  cases p with
  | name s => exact hp.elim
  | position n =>
      cases q with
      | name t => exact hq.elim
      | position m =>
          rw [eq_of_toList_toString_eq h]
      | truth b => exact absurd h (inner_position_ne_inner_truth n b)
  | truth b =>
      cases q with
      | name t => exact hq.elim
      | position m => exact absurd h.symm (inner_position_ne_inner_truth m b)
      | truth b' =>
          have hall : ∀ b b', inner (.truth b) = inner (.truth b') → b = b' := by decide
          rw [hall b b' h]

/-! ## One part after another -/

theorem exists_name_or_isIndex (h : ¬ IsBare p) :
    (∃ s, p = .name s ∧ inner p = quoteAsciiChars s.toList) ∨ IsIndex p := by
  cases p with
  | name s => exact .inl ⟨s, rfl, if_neg h⟩
  | position n => exact .inr trivial
  | truth b => exact .inr trivial

theorem quoteAsciiChars_append_ne (hq : IsIndex q) (cs : List Char) :
    quoteAsciiChars cs ++ ']' :: rest ≠ inner q ++ ']' :: rest' := by
  intro h
  have hhead := congrArg List.head? h
  cases hinner : inner q with
  | nil => simp [quoteAsciiChars, hinner] at hhead
  | cons c ds =>
      have hquote := (hq.ne_of_mem_inner c (by simp [hinner])).2
      simp [quoteAsciiChars, hinner] at hhead
      exact hquote hhead.symm

theorem inner_append_inj (hp : ¬ IsBare p) (hq : ¬ IsBare q)
    (h : inner p ++ ']' :: rest = inner q ++ ']' :: rest') : p = q ∧ rest = rest' := by
  rcases exists_name_or_isIndex hp with ⟨s, rfl, hs⟩ | hp
  · rcases exists_name_or_isIndex hq with ⟨t, rfl, ht⟩ | hq
    · rw [hs, ht] at h
      obtain ⟨hname, hrest⟩ := Json.quoteAsciiChars_append_inj h
      rw [String.toList_inj] at hname
      exact ⟨by rw [hname], (List.cons.inj hrest).2⟩
    · rw [hs] at h
      exact absurd h (quoteAsciiChars_append_ne hq _)
  · rcases exists_name_or_isIndex hq with ⟨t, rfl, ht⟩ | hq
    · rw [ht] at h
      exact absurd h.symm (quoteAsciiChars_append_ne hp _)
    · have hgoesOn : ∀ {p}, IsIndex p → ∀ c ∈ inner p, (c != ']') = true := by
        intro p hp c hc
        exact bne_iff_ne.mpr (hp.ne_of_mem_inner c hc).1
      obtain ⟨hinner, hrest⟩ := append_inj_of_stops (hgoesOn hp) (hgoesOn hq) (by simp) (by simp) h
      exact ⟨hp.eq_of_inner_eq hq hinner, (List.cons.inj hrest).2⟩

/-- What comes after a part begins with a point or with a bracket. -/
def Opens (cs : List Char) : Prop := ∀ c ∈ cs.head?, opensPart c = true

theorem written_append_ne (atStart : Bool) (hp : IsBare p) (hq : ¬ IsBare q) :
    written atStart p ++ rest ≠ written atStart q ++ rest' := by
  intro h
  have hhead := congrArg List.head? h
  rw [written, written, if_pos hp, if_neg hq] at hhead
  cases atStart with
  | false => simp at hhead
  | true =>
      obtain ⟨c, cs, hinner⟩ := List.exists_cons_of_ne_nil hp.inner_ne_nil
      have hopens := hp.opensPart_eq_false c (by simp [hinner])
      simp only [hinner, if_true, List.cons_append, List.head?_cons, Option.some.injEq] at hhead
      rw [hhead] at hopens
      contradiction

theorem written_append_inj (atStart : Bool) (hrest : Opens rest) (hrest' : Opens rest')
    (h : written atStart p ++ rest = written atStart q ++ rest') : p = q ∧ rest = rest' := by
  by_cases hp : IsBare p
  · by_cases hq : IsBare q
    · have hinner : inner p ++ rest = inner q ++ rest' := by
        rw [written, written, if_pos hp, if_pos hq] at h
        cases atStart with
        | true => exact h
        | false => exact (List.cons.inj h).2
      have hgoesOn : ∀ {p}, IsBare p → ∀ c ∈ inner p, (!opensPart c) = true := by
        intro p hp c hc
        rw [hp.opensPart_eq_false c hc]
        rfl
      have hstops : ∀ {rest}, Opens rest → ∀ c ∈ rest.head?, (!opensPart c) = false := by
        intro rest hrest c hc
        rw [hrest c hc]
        rfl
      obtain ⟨hname, hrest⟩ := append_inj_of_stops (hgoesOn hp) (hgoesOn hq) (hstops hrest)
        (hstops hrest') hinner
      exact ⟨hp.eq_of_inner_eq hq hname, hrest⟩
    · exact absurd h (written_append_ne atStart hp hq)
  · by_cases hq : IsBare q
    · exact absurd h.symm (written_append_ne atStart hq hp)
    · rw [written, written, if_neg hp, if_neg hq] at h
      simp only [List.cons_append, List.append_assoc, List.cons.injEq, true_and,
        List.nil_append] at h
      exact inner_append_inj hp hq h

/-! ## Whole places -/

theorem written_ne_nil (atStart : Bool) (p : PlacePart) : written atStart p ≠ [] := by
  unfold written
  split
  · next hp =>
      cases atStart with
      | true => exact hp.inner_ne_nil
      | false => exact List.cons_ne_nil _ _
  · exact List.cons_ne_nil _ _

theorem isEmpty_extend (s : String) (p : PlacePart) : (extend s p).isEmpty = false := by
  rw [Bool.eq_false_iff]
  intro hempty
  have hnil := toList_extend s p
  rw [String.isEmpty_iff.mp hempty] at hnil
  exact written_ne_nil _ p (List.append_eq_nil_iff.mp hnil.symm).2

/-- The parts of a place one after the other. -/
def spelled : Bool → Place → List Char
  | _, [] => []
  | atStart, p :: place => written atStart p ++ spelled false place

theorem toList_foldl_extend (s : String) (place : Place) :
    (place.foldl extend s).toList = s.toList ++ spelled s.isEmpty place := by
  induction place generalizing s with
  | nil => simp [spelled]
  | cons p place ih =>
      rw [List.foldl_cons, ih, isEmpty_extend, toList_extend, List.append_assoc, spelled]

theorem opens_spelled (place : Place) : Opens (spelled false place) := by
  cases place with
  | nil => simp [Opens, spelled]
  | cons p place =>
      intro c hc
      rw [spelled, written] at hc
      split at hc
      · obtain rfl := Option.some.inj hc
        rfl
      · obtain rfl := Option.some.inj hc
        rfl

theorem spelled_inj {atStart : Bool} (h : spelled atStart place = spelled atStart place') :
    place = place' := by
  induction place generalizing atStart place' with
  | nil =>
      cases place' with
      | nil => rfl
      | cons q place' =>
          exact absurd (List.append_eq_nil_iff.mp h.symm).1 (written_ne_nil atStart q)
  | cons p place ih =>
      cases place' with
      | nil => exact absurd (List.append_eq_nil_iff.mp h).1 (written_ne_nil atStart p)
      | cons q place' =>
          obtain ⟨hpart, hrest⟩ :=
            written_append_inj atStart (opens_spelled place) (opens_spelled place') h
          rw [hpart, ih hrest]

/-- Places with the same text are the same, whatever names and positions they are made of.  The
text comes about unless a position is too long to be written, which no index of a list is. -/
theorem texts_identify_places (place place' : Place) :
    (place.text = place'.text ↔ place = place') ∧
      ((∃ s, place.write = .ok s) ↔ ∀ n, .position n ∈ place → isWritable n = true) ∧
      ∀ s, place.write = .ok s → s = place.text := by
  refine ⟨⟨fun h => ?_, congrArg text⟩, ?_, ?_⟩
  · have hchars := congrArg String.toList h
    rw [text, text, toList_foldl_extend, toList_foldl_extend] at hchars
    exact spelled_inj hchars
  · have hall : place.all isWritablePart = true ↔
        ∀ n, .position n ∈ place → isWritable n = true := by
      rw [List.all_eq_true]
      constructor
      · exact fun h n hn => h _ hn
      · intro h p hp
        cases p with
        | position n => exact h n hp
        | truth b => rfl
        | name s => rfl
    rw [← hall, write]
    split
    · next hwritable => simp [hwritable]
    · next hwritable => simp [hwritable]
  · intro s hwrite
    rw [write] at hwrite
    split at hwrite
    · exact (Except.ok.inj hwrite).symm
    · contradiction

example : text [.name "steps", .position 0, .name "options", .position 2, .name "pass"] =
    "steps[0].options[2].pass" := by decide

end Place

end Questline
