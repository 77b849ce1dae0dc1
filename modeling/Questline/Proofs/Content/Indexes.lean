import Questline.Content.Library
import Mathlib.Data.List.Induction

/-!
# Indexes of content

What is looked up in an index is what a search through the whole list gives, in
the same order: steps by their ids without regard to case, and patches by their
targets.
-/

namespace Questline

variable {α : Type}

/-! ## Groups -/

/-- Each group holds the elements with its key, in order; without such elements there is none. -/
theorem get?_groupBy (key : α → Option String) (xs : List α) (k : String) :
    Table.get? k (groupBy key xs) =
      if (xs.filter fun x => key x = some k) = [] then none
      else some (xs.filter fun x => key x = some k) := by
  induction xs using List.reverseRecOn with
  | nil => rfl
  | append_singleton xs x ih =>
      rw [groupBy, List.foldl_append, List.foldl_cons, List.foldl_nil, ← groupBy]
      cases hkey : key x with
      | none => simp [hkey, ih]
      | some own =>
          dsimp only
          by_cases hown : own = k
          · subst hown
            rw [Table.get?_set_self, ih]
            split <;> simp_all
          · rw [Table.get?_set_of_ne (Ne.symm hown), ih]
            simp [hkey, hown]

theorem getD_get?_groupBy (key : α → Option String) (xs : List α) (k : String) :
    (Table.get? k (groupBy key xs)).getD [] = xs.filter fun x => key x = some k := by
  rw [get?_groupBy]
  split
  · next hnone => rw [hnone, Option.getD_none]
  · rw [Option.getD_some]

namespace Content

theorem stepsFor_eq (c : Content) (id : String) :
    c.stepsFor id = c.steps.filter fun s => Text.lower s.id = Text.lower id := by
  rw [stepsFor, stepIndex, getD_get?_groupBy]
  simp only [Option.some.injEq]

theorem hasStep_iff {c : Content} {id : String} : c.hasStep id = true ↔ c.stepsFor id ≠ [] := by
  rw [hasStep, Table.contains, stepsFor, stepIndex, get?_groupBy]
  split
  · simp
  · next hsome => simpa using hsome

theorem patchesFor_eq (c : Content) (target : String) :
    c.patchesFor target = c.patches.filter (·.isFor target) := by
  rw [patchesFor, patchIndex, getD_get?_groupBy]
  apply List.filter_congr
  intro p _
  simp [PatchOf.isFor, Bool.beq_eq_decide_eq]

/-- What can only be true of patches for a target is sought among those in the index. -/
theorem filter_patchesFor (c : Content) {target : String} {test : StepPatch → Bool}
    (h : ∀ p, test p = true → p.isFor target = true) :
    (c.patchesFor target).filter test = c.patches.filter test := by
  rw [patchesFor_eq, List.filter_filter]
  apply List.filter_congr
  intro p _
  cases htest : test p with
  | false => rfl
  | true => rw [h p htest, Bool.and_true]

theorem patchesFor_subset (c : Content) (target : String) :
    c.patchesFor target ⊆ c.patches := by
  rw [patchesFor_eq]
  exact List.filter_sublist.subset

end Content

end Questline
