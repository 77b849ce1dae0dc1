import Mathlib.Data.List.Basic
import Questline.Text.Trim

/-!
# Sorted texts

Sorting texts keeps all of them and puts them in order; texts that are the same
but for their order are the same once sorted.  Dropping repetitions leaves every
text once.
-/

namespace Questline.Text

theorem perm_sortTexts (xs : List String) : (sortTexts xs).Perm xs :=
  List.mergeSort_perm xs _

theorem pairwise_sortTexts (xs : List String) : (sortTexts xs).Pairwise (· ≤ ·) := by
  have hsorted : (sortTexts xs).Pairwise fun a b => decide (a ≤ b) = true := by
    apply List.pairwise_mergeSort
    · intro a b c hab hbc
      rw [decide_eq_true_iff] at hab hbc ⊢
      exact String.le_trans hab hbc
    · intro a b
      simpa using String.le_total a b
  exact hsorted.imp fun h => of_decide_eq_true h

theorem sortTexts_eq_of_perm {xs ys : List String} (h : xs.Perm ys) :
    sortTexts xs = sortTexts ys := by
  have hperm := ((perm_sortTexts xs).trans h).trans (perm_sortTexts ys).symm
  refine hperm.eq_of_pairwise ?_ (pairwise_sortTexts xs) (pairwise_sortTexts ys)
  intro a b _ _ hab hba
  exact String.le_antisymm hab hba

theorem sortTexts_eq_self {xs : List String} (h : xs.Pairwise (· ≤ ·)) : sortTexts xs = xs := by
  refine (perm_sortTexts xs).eq_of_pairwise ?_ (pairwise_sortTexts xs) h
  intro a b _ _ hab hba
  exact String.le_antisymm hab hba

/-- Where no text occurs twice, each is followed by greater ones only. -/
theorem pairwise_lt_sortTexts {xs : List String} (h : xs.Nodup) :
    (sortTexts xs).Pairwise (· < ·) := by
  have hnodup : (sortTexts xs).Pairwise (· ≠ ·) := (perm_sortTexts xs).nodup_iff.mpr h
  refine ((pairwise_sortTexts xs).and hnodup).imp ?_
  rintro a b ⟨hle, hne⟩
  by_contra hnot
  exact hne (String.le_antisymm hle (String.not_lt.mp hnot))

/-! ## Repetitions -/

theorem nodup_eraseDups (xs : List String) : xs.eraseDups.Nodup := by
  -- one round takes away every later copy of the first element
  induction hlen : xs.length using Nat.strongRecOn generalizing xs with
  | _ n ih =>
      cases xs with
      | nil => simp
      | cons x xs =>
          rw [List.eraseDups_cons, List.nodup_cons]
          refine ⟨by simp, ih _ ?_ _ rfl⟩
          have hfilter := List.length_filter_le (fun y => !y == x) xs
          rw [List.length_cons] at hlen
          omega

theorem perm_eraseDups {xs ys : List String} (h : xs.Perm ys) :
    xs.eraseDups.Perm ys.eraseDups := by
  rw [List.perm_ext_iff_of_nodup (nodup_eraseDups xs) (nodup_eraseDups ys)]
  simp [h.mem_iff]

end Questline.Text
