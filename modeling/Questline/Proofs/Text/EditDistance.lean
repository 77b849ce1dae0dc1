import Mathlib.Order.Bounds.Basic
import Questline.Text.EditDistance

/-!
# Edit distances

The distance of two texts is defined by recursion on both, and it is the least
number of edits that lead from the one to the other; so it does not matter from
which end the texts are read.  A row of the table holds the distances of what has
been read of the first text to all beginnings of the second.
-/

namespace Questline.Text

/-- The distance of two texts by recursion: one of the first characters is left out, or both are. -/
def distance : List Char → List Char → Nat
  | [], bs => bs.length
  | a :: as, [] => (a :: as).length
  | a :: as, b :: bs =>
    min (min (distance as (b :: bs) + 1) (distance (a :: as) bs + 1))
      (distance as bs + if a = b then 0 else 1)
termination_by as bs => as.length + bs.length

/-- A character is put in, taken out or replaced by another one. -/
inductive Edit : List Char → List Char → Prop
  | insert (before after : List Char) (c : Char) : Edit (before ++ after) (before ++ c :: after)
  | delete (before after : List Char) (c : Char) : Edit (before ++ c :: after) (before ++ after)
  | substitute (before after : List Char) {c d : Char} (hne : c ≠ d) :
    Edit (before ++ c :: after) (before ++ d :: after)

/-- A number of edits, one after the other, that lead from one text to another. -/
inductive Edits : Nat → List Char → List Char → Prop
  | none (as : List Char) : Edits 0 as as
  | step {n : Nat} {as bs cs : List Char} (first : Edit as bs) (rest : Edits n bs cs) :
    Edits (n + 1) as cs

variable {a b c : Char} {as bs cs : List Char} {m n : Nat}

/-! ## Edits -/

theorem Edit.symm (h : Edit as bs) : Edit bs as := by
  cases h with
  | insert before after c => exact .delete before after c
  | delete before after c => exact .insert before after c
  | substitute before after hne => exact .substitute before after hne.symm

theorem Edit.cons (c : Char) (h : Edit as bs) : Edit (c :: as) (c :: bs) := by
  cases h with
  | insert before after d => exact .insert (c :: before) after d
  | delete before after d => exact .delete (c :: before) after d
  | substitute before after hne => exact .substitute (c :: before) after hne

theorem Edit.reverse (h : Edit as bs) : Edit as.reverse bs.reverse := by
  cases h with
  | insert before after c =>
      simpa using Edit.insert after.reverse before.reverse c
  | delete before after c =>
      simpa using Edit.delete after.reverse before.reverse c
  | substitute before after hne =>
      simpa using Edit.substitute after.reverse before.reverse hne

theorem Edits.single (h : Edit as bs) : Edits 1 as bs := .step h (.none bs)

theorem Edits.trans (h : Edits m as bs) (h' : Edits n bs cs) : Edits (m + n) as cs := by
  induction h with
  | none => rwa [Nat.zero_add]
  | step first _ ih =>
      rw [Nat.succ_add]
      exact .step first (ih h')

theorem Edits.symm (h : Edits n as bs) : Edits n bs as := by
  induction h with
  | none as => exact .none as
  | step first _ ih => exact ih.trans (.single first.symm)

theorem Edits.min (h : Edits m as bs) (h' : Edits n as bs) : Edits (min m n) as bs := by
  rcases Nat.le_total m n with hle | hle
  · rwa [Nat.min_eq_left hle]
  · rwa [Nat.min_eq_right hle]

theorem Edits.map {f : List Char → List Char} (hf : ∀ {as bs}, Edit as bs → Edit (f as) (f bs))
    (h : Edits n as bs) : Edits n (f as) (f bs) := by
  induction h with
  | none as => exact .none (f as)
  | step first _ ih => exact .step (hf first) ih

theorem edits_zero_iff : Edits 0 as bs ↔ as = bs := by
  constructor
  · rintro ⟨⟩
    rfl
  · rintro rfl
    exact .none as

/-! ## The distance as the least number of edits -/

@[simp] theorem distance_nil_left (bs : List Char) : distance [] bs = bs.length := by
  rw [distance]

@[simp] theorem distance_nil_right (as : List Char) : distance as [] = as.length := by
  cases as <;> simp [distance]

theorem distance_cons_cons (a b : Char) (as bs : List Char) :
    distance (a :: as) (b :: bs) =
      min (min (distance as (b :: bs) + 1) (distance (a :: as) bs + 1))
        (distance as bs + if a = b then 0 else 1) := by
  rw [distance]

theorem edits_nil_right (as : List Char) : Edits as.length as [] := by
  induction as with
  | nil => exact .none []
  | cons a as ih => exact .step (.delete [] as a) ih

theorem edits_distance (as bs : List Char) : Edits (distance as bs) as bs := by
  fun_induction distance as bs with
  | case1 bs => exact (edits_nil_right bs).symm
  | case2 a as => exact edits_nil_right (a :: as)
  | case3 a as b bs ihLeft ihRight ihBoth =>
      have hdelete : Edits (distance as (b :: bs) + 1) (a :: as) (b :: bs) :=
        .step (.delete [] as a) ihLeft
      have hinsert : Edits (distance (a :: as) bs + 1) (a :: as) (b :: bs) :=
        ihRight.trans (.single (.insert [] bs b))
      have hboth : Edits (distance as bs + if a = b then 0 else 1) (a :: as) (b :: bs) := by
        have hkept : Edits (distance as bs) (a :: as) (a :: bs) := ihBoth.map (Edit.cons a)
        split
        · next heq => rwa [← heq]
        · next hne => exact hkept.trans (.single (.substitute [] bs hne))
      exact (hdelete.min hinsert).min hboth

/-! ## No number of edits is smaller -/

theorem distance_self (as : List Char) : distance as as = 0 := by
  induction as with
  | nil => exact distance_nil_left []
  | cons a as ih => simp [distance_cons_cons, ih]

theorem distance_cons_left_le (a : Char) (as bs : List Char) :
    distance (a :: as) bs ≤ distance as bs + 1 := by
  cases bs with
  | nil => simp
  | cons b bs =>
      rw [distance_cons_cons]
      omega

theorem distance_cons_right_le (as : List Char) (b : Char) (bs : List Char) :
    distance as (b :: bs) ≤ distance as bs + 1 := by
  cases as with
  | nil => simp
  | cons a as =>
      rw [distance_cons_cons]
      omega

theorem distance_le_cons_left (a : Char) (as bs : List Char) :
    distance as bs ≤ distance (a :: as) bs + 1 := by
  induction bs with
  | nil =>
      rw [distance_nil_right, distance_nil_right, List.length_cons]
      omega
  | cons b bs ih =>
      have hright := distance_cons_right_le as b bs
      rw [distance_cons_cons]
      omega

theorem distance_cons_congr_le (h : ∀ cs, distance as cs ≤ distance bs cs + 1) (c : Char)
    (cs : List Char) : distance (c :: as) cs ≤ distance (c :: bs) cs + 1 := by
  induction cs with
  | nil => simpa using h []
  | cons d cs ih =>
      have hkept := h cs
      have hleft := h (d :: cs)
      rw [distance_cons_cons, distance_cons_cons]
      omega

theorem distance_substitute_le (a b : Char) (as cs : List Char) :
    distance (a :: as) cs ≤ distance (b :: as) cs + 1 := by
  induction cs with
  | nil => simp
  | cons c cs ih =>
      rw [distance_cons_cons, distance_cons_cons]
      split <;> split <;> omega

theorem distance_append_congr_le (h : ∀ cs, distance as cs ≤ distance bs cs + 1)
    (before cs : List Char) : distance (before ++ as) cs ≤ distance (before ++ bs) cs + 1 := by
  induction before generalizing cs with
  | nil => exact h cs
  | cons c before ih => exact distance_cons_congr_le ih c cs

theorem Edit.distance_le (h : Edit as bs) (cs : List Char) :
    distance as cs ≤ distance bs cs + 1 := by
  cases h with
  | insert before after c =>
      exact distance_append_congr_le (distance_le_cons_left c after) before cs
  | delete before after c =>
      exact distance_append_congr_le (distance_cons_left_le c after) before cs
  | @substitute before after c d hne =>
      exact distance_append_congr_le (distance_substitute_le c d after) before cs

theorem Edits.distance_le (h : Edits n as bs) : distance as bs ≤ n := by
  induction h with
  | none as => rw [distance_self]
  | @step n as bs cs first rest ih => exact (first.distance_le cs).trans (Nat.succ_le_succ ih)

theorem isLeast_distance (as bs : List Char) : IsLeast {n | Edits n as bs} (distance as bs) :=
  ⟨edits_distance as bs, fun _ h => h.distance_le⟩

theorem distance_comm (as bs : List Char) : distance as bs = distance bs as :=
  le_antisymm (edits_distance bs as).symm.distance_le (edits_distance as bs).symm.distance_le

theorem distance_triangle (as bs cs : List Char) :
    distance as cs ≤ distance as bs + distance bs cs :=
  ((edits_distance as bs).trans (edits_distance bs cs)).distance_le

theorem distance_eq_zero_iff : distance as bs = 0 ↔ as = bs := by
  constructor
  · intro h
    exact edits_zero_iff.mp (h ▸ edits_distance as bs)
  · rintro rfl
    exact distance_self as

theorem distance_reverse (as bs : List Char) :
    distance as.reverse bs.reverse = distance as bs := by
  have hle : ∀ as bs, distance as.reverse bs.reverse ≤ distance as bs := fun as bs =>
    ((edits_distance as bs).map Edit.reverse).distance_le
  apply le_antisymm (hle as bs)
  simpa using hle as.reverse bs.reverse

/-! ## Rows of the table -/

/-- The distances of one text to another and to what this becomes by one more character at a time.
Both are in reverse, the last character read standing first. -/
def distancesFrom (as bs : List Char) : List Char → List Nat
  | [] => [distance as bs]
  | d :: ds => distance as bs :: distancesFrom as (d :: bs) ds

theorem exists_distancesFrom_eq_cons (as bs ds : List Char) :
    ∃ later, distancesFrom as bs ds = distance as bs :: later := by
  cases ds with
  | nil => exact ⟨[], rfl⟩
  | cons d ds => exact ⟨_, rfl⟩

theorem firstRow_eq (second : List Char) : firstRow second = distancesFrom [] [] second := by
  have hfrom : ∀ bs ds, distancesFrom [] bs ds = List.range' bs.length (ds.length + 1) := by
    intro bs ds
    induction ds generalizing bs with
    | nil => simp [distancesFrom]
    | cons d ds ih =>
        rw [distancesFrom, ih, distance_nil_left, List.length_cons, List.length_cons,
          ← List.range'_succ]
  rw [firstRow, hfrom, List.range_eq_range', List.length_nil]

/-- A row follows from the row above it, cell by cell. -/
theorem rowFrom_distancesFrom (c : Char) (as bs ds : List Char) :
    distance (c :: as) bs :: rowFrom c ds (distancesFrom as bs ds) (distance (c :: as) bs) =
      distancesFrom (c :: as) bs ds := by
  induction ds generalizing bs with
  | nil => rfl
  | cons d ds ih =>
      obtain ⟨later, hlater⟩ := exists_distancesFrom_eq_cons as (d :: bs) ds
      have hrest := ih (d :: bs)
      rw [distancesFrom, distancesFrom, ← hrest, hlater, rowFrom, ← distance_cons_cons]

theorem nextRow_distancesFrom (c : Char) (as second : List Char) :
    nextRow second (distancesFrom as [] second) c = distancesFrom (c :: as) [] second := by
  obtain ⟨later, hlater⟩ := exists_distancesFrom_eq_cons as [] second
  have hfirst : (distancesFrom as [] second).headD 0 + 1 = distance (c :: as) [] := by
    rw [hlater, List.headD_cons, distance_nil_right, distance_nil_right, List.length_cons]
  rw [nextRow, hfirst, rowFrom_distancesFrom]

theorem lastRow_eq (first second : List Char) :
    lastRow first second = distancesFrom first.reverse [] second := by
  have hfold : ∀ as, first.foldl (nextRow second) (distancesFrom as [] second) =
      distancesFrom (first.reverse ++ as) [] second := by
    induction first with
    | nil => exact fun _ => rfl
    | cons c first ih =>
        intro as
        rw [List.foldl_cons, nextRow_distancesFrom, ih, List.reverse_cons, List.append_assoc,
          List.singleton_append]
  rw [lastRow, firstRow_eq, hfold, List.append_nil]

theorem getLastD_distancesFrom (as bs ds : List Char) :
    (distancesFrom as bs ds).getLastD 0 = distance as (ds.reverse ++ bs) := by
  induction ds generalizing bs with
  | nil => rfl
  | cons d ds ih =>
      obtain ⟨later, hlater⟩ := exists_distancesFrom_eq_cons as (d :: bs) ds
      have hlast := ih (d :: bs)
      rw [hlater] at hlast
      rw [distancesFrom, hlater, List.getLastD_cons, List.reverse_cons, List.append_assoc,
        List.singleton_append, ← hlast, List.getLastD_cons, List.getLastD_cons]

theorem editDistance_eq (a b : String) : editDistance a b = distance a.toList b.toList := by
  rw [editDistance, lastRow_eq, getLastD_distancesFrom, List.append_nil, distance_reverse]

/-- The table gives the distance by recursion, which is the least number of edits that lead from
one text to the other; and distances are a metric. -/
theorem editDistance_counts_edits (a b c : String) :
    editDistance a b = distance a.toList b.toList ∧
      IsLeast {n | Edits n a.toList b.toList} (editDistance a b) ∧
      editDistance a b = editDistance b a ∧
      (editDistance a b = 0 ↔ a = b) ∧
      editDistance a c ≤ editDistance a b + editDistance b c := by
  rw [editDistance_eq, editDistance_eq, editDistance_eq, editDistance_eq, distance_eq_zero_iff,
    String.toList_inj]
  exact ⟨rfl, isLeast_distance _ _, distance_comm _ _, Iff.rfl, distance_triangle _ _ _⟩

example : editDistance "kitten" "sitting" = 3 := by decide

end Questline.Text
