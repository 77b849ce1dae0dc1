import Questline.Json.Levels
import Questline.Proofs.Attempt
import Questline.Proofs.Json.PairTable

/-!
# Bounds on nesting

What is taken out of a value is nested less deep than the value is, and a table
is nested as deep as the values that were put into it.
-/

namespace Questline

namespace Json

variable {v w : Json} {xs : List Json} {ms : Table Json} {n : Nat} {key : String}

theorem levelsOfList_le_iff : levelsOfList xs ≤ n ↔ ∀ x ∈ xs, x.levels ≤ n := by
  induction xs with
  | nil => simp [levelsOfList]
  | cons x xs ih => rw [levelsOfList, Nat.max_le, ih, List.forall_mem_cons]

theorem levelsOfMembers_le_iff : levelsOfMembers ms ≤ n ↔ ∀ m ∈ ms, m.2.levels ≤ n := by
  induction ms with
  | nil => simp [levelsOfMembers]
  | cons m ms ih => rw [levelsOfMembers, Nat.max_le, ih, List.forall_mem_cons]

theorem levelsOfMembers_append (ms ns : Table Json) :
    levelsOfMembers (ms ++ ns) = max (levelsOfMembers ms) (levelsOfMembers ns) := by
  induction ms with
  | nil => simp [levelsOfMembers]
  | cons m ms ih => rw [List.cons_append, levelsOfMembers, ih, levelsOfMembers, Nat.max_assoc]

theorem levelsOfList_texts (texts : List String) : levelsOfList (texts.map str) = 0 := by
  rw [← Nat.le_zero, levelsOfList_le_iff]
  intro x hx
  obtain ⟨s, -, rfl⟩ := List.mem_map.mp hx
  exact Nat.le_refl 0

theorem levelsOfMembers_texts (t : Table String) : levelsOfMembers (t.mapValues str) = 0 := by
  rw [← Nat.le_zero, levelsOfMembers_le_iff]
  intro m hm
  obtain ⟨n, -, rfl⟩ := List.mem_map.mp hm
  exact Nat.le_refl 0

theorem levels_arr_le_iff : (arr xs).levels ≤ n + 1 ↔ ∀ x ∈ xs, x.levels ≤ n := by
  rw [levels, Nat.succ_le_succ_iff, levelsOfList_le_iff]

theorem levels_obj_le_iff : (obj ms).levels ≤ n + 1 ↔ ∀ m ∈ ms, m.2.levels ≤ n := by
  rw [levels, Nat.succ_le_succ_iff, levelsOfMembers_le_iff]

theorem levels_member?_le (h : v.levels ≤ n + 1) (hmember : v.member? key = some w) :
    w.levels ≤ n := by
  cases v with
  | obj ms => exact levels_obj_le_iff.mp h (key, w) (Table.mem_of_get? hmember)
  | _ => cases hmember

theorem levels_getD_member?_le (h : v.levels ≤ n + 1) (key : String) {standIn : Json}
    (hstandIn : standIn.levels ≤ n) : ((v.member? key).getD standIn).levels ≤ n := by
  cases hmember : v.member? key with
  | none => exact hstandIn
  | some w => exact levels_member?_le h hmember

theorem levels_memberOrNull_le (h : v.levels ≤ n + 1) (key : String) :
    (v.memberOrNull key).levels ≤ n :=
  levels_getD_member?_le h key (Nat.zero_le n)

theorem two_le_levels (h : (v.memberOrNull key).isObject = true) : 2 ≤ v.levels := by
  by_contra hflat
  have hshallow : v.levels ≤ 0 + 1 := by omega
  have hmember := levels_memberOrNull_le hshallow key
  generalize v.memberOrNull key = w at h hmember
  cases w with
  | obj ms => simp [levels] at hmember
  | _ => cases h

theorem levels_le_of_mem_items (h : v.levels ≤ n + 1) (hitems : v.items? = some xs) :
    ∀ x ∈ xs, x.levels ≤ n := by
  have htexts : ∀ {α : Type} (f : α → String) (as : List α), ∀ x ∈ as.map fun a => str (f a),
      x.levels ≤ n := by
    intro α f as x hx
    obtain ⟨a, -, rfl⟩ := List.mem_map.mp hx
    exact Nat.zero_le n
  cases v with
  | arr ys =>
      obtain rfl := Option.some.inj hitems
      exact levels_arr_le_iff.mp h
  | str s =>
      obtain rfl := Option.some.inj hitems
      exact htexts _ _
  | obj ms =>
      obtain rfl := Option.some.inj hitems
      exact htexts _ _
  | _ => cases hitems

theorem levels_le_of_mem_itemsOf (h : v.levels ≤ n + 1) (hitems : v.itemsOf = .ok xs) :
    ∀ x ∈ xs, x.levels ≤ n := by
  unfold itemsOf at hitems
  split at hitems
  · next ys hsome =>
      obtain rfl := Except.ok.inj hitems
      exact levels_le_of_mem_items h hsome
  · cases hitems

end Json

namespace PairTable

variable {t : PairTable} {v : Json} {n : Nat}

theorem levels_entryOf_le {e : Json × Json} (h : v.levels ≤ n + 1) (he : entryOf v = .ok e) :
    e.2.levels ≤ n := by
  unfold entryOf at he
  split at he
  · cases he
  · next k x hitems =>
      split at he
      · cases he
      · obtain rfl := Except.ok.inj he
        exact Json.levels_le_of_mem_items h hitems x (by simp)
  · cases he

/-- The values of a table are nested less deep than the value that the table was made of. -/
theorem levels_ofJson_le (h : v.levels ≤ n + 1) (ht : ofJson v = .ok t) :
    ∀ e ∈ t, e.2.levels ≤ n := by
  unfold ofJson at ht
  split at ht
  · next ms =>
      obtain rfl := Except.ok.inj ht
      intro e he
      obtain ⟨m, hm, rfl⟩ := List.mem_map.mp he
      exact Json.levels_obj_le_iff.mp h m hm
  · obtain ⟨xs, hitems, ht⟩ := bind_eq_ok_iff.mp ht
    obtain ⟨new, hnew, ht⟩ := bind_eq_ok_iff.mp ht
    obtain rfl := Except.ok.inj ht
    refine forall_mem_update (P := fun x => x.levels ≤ n) nofun fun e he => ?_
    obtain ⟨x, hx, hentry⟩ := exists_mem_of_forall₂ (forall₂_of_mapM_eq_ok hnew) he
    have hle := Json.levels_le_of_mem_itemsOf h hitems x hx
    exact levels_entryOf_le (Nat.le_succ_of_le hle) hentry

end PairTable

end Questline
