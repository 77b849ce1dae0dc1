/-!
# Totals

The sum of a list of integers.
-/

namespace Questline

def total : List Int → Int
  | [] => 0
  | n :: ns => n + total ns

@[simp] theorem total_append (ms ns : List Int) : total (ms ++ ns) = total ms + total ns := by
  induction ms with
  | nil => simp [total]
  | cons m ms ih =>
    simp only [List.cons_append, total, ih]
    omega

theorem total_map_add {α : Type} (f g : α → Int) (xs : List α) :
    total (xs.map fun x => f x + g x) = total (xs.map f) + total (xs.map g) := by
  induction xs with
  | nil => rfl
  | cons x xs ih =>
    simp only [List.map_cons, total, ih]
    omega

/-- The order of the summands does not matter. -/
theorem total_of_perm {ms ns : List Int} (h : ms.Perm ns) : total ms = total ns := by
  induction h with
  | nil => rfl
  | cons m _ ih => simp [total, ih]
  | swap m n _ =>
    simp only [total]
    omega
  | trans _ _ ih₁ ih₂ => exact ih₁.trans ih₂

end Questline
