import Mathlib.Data.List.Induction
import Questline.Table

/-!
# Members of tables

What a table holds after its members were set, erased or joined to others.
-/

namespace Questline.Table

variable {α : Type}

theorem get?_append (key : String) (t u : Table α) :
    get? key (t ++ u) = (get? key t).or (get? key u) := by
  induction t with
  | nil => rfl
  | cons m t ih =>
      by_cases h : m.1 = key
      · simp [get?, h]
      · simpa [get?, h] using ih

theorem get?_set_congr {other : String} {t u : Table α} (h : get? other t = get? other u)
    (name : String) (v : α) : get? other (set name v t) = get? other (set name v u) := by
  by_cases hother : other = name
  · rw [hother, get?_set_self, get?_set_self]
  · rw [get?_set_of_ne hother, get?_set_of_ne hother, h]

/-- A name is not found exactly when no member has it. -/
theorem get?_eq_none_iff {key : String} {t : Table α} :
    get? key t = none ↔ ∀ m ∈ t, m.1 ≠ key := by
  induction t with
  | nil => simp
  | cons m t ih =>
      by_cases h : m.1 = key
      · simp [get?, h]
      · simpa [get?, h] using ih

theorem mem_of_get? {key : String} {v : α} {t : Table α} (h : get? key t = some v) :
    (key, v) ∈ t := by
  induction t with
  | nil => cases h
  | cons m t ih =>
      obtain ⟨k, w⟩ := m
      by_cases hk : k = key
      · simp only [get?, hk, if_true, Option.some.injEq] at h
        rw [hk, h]
        exact List.mem_cons_self
      · exact List.mem_cons_of_mem _ (ih (by simpa [get?, hk] using h))

/-- Of the members whose names are kept, each is found as before. -/
theorem get?_filter (keep : String → Bool) (key : String) (t : Table α) :
    get? key (t.filter fun m => keep m.1) = if keep key then get? key t else none := by
  induction t with
  | nil => simp
  | cons m t ih =>
      by_cases hm : m.1 = key
      · by_cases hkeep : keep key <;> simp [get?, hm, hkeep, ih]
      · by_cases hkeep : keep m.1 <;> simp [get?, hm, hkeep, ih]

/-- A table read off a list of names. -/
theorem get?_filterMap (f : String → Option α) (key : String) (keys : List String) :
    get? key (keys.filterMap fun k => (f k).map fun v => (k, v)) =
      if key ∈ keys then f key else none := by
  induction keys with
  | nil => rfl
  | cons k keys ih =>
      rw [List.filterMap_cons]
      by_cases hk : k = key
      · subst hk
        cases hf : f k <;> simp [get?, ih, hf]
      · cases f k <;> simp [get?, ih, hk, Ne.symm hk]

theorem erase_eq_self {key : String} {t : Table α} (h : get? key t = none) : erase key t = t := by
  rw [erase, List.filter_eq_self]
  intro m hm
  simpa using get?_eq_none_iff.mp h m hm

theorem keys_set_of_get?_ne_none {key : String} {t : Table α} (h : get? key t ≠ none) (v : α) :
    (set key v t).keys = t.keys := by
  induction t with
  | nil => exact absurd rfl h
  | cons m t ih =>
      by_cases hm : m.1 = key
      · simp [set, keys, hm]
      · have hrest := ih (by simpa [get?, hm] using h)
        simp only [set, keys, hm, if_false, List.map_cons] at hrest ⊢
        rw [hrest]

theorem set_of_get?_eq_none {key : String} {t : Table α} (h : get? key t = none) (v : α) :
    set key v t = t ++ [(key, v)] := by
  induction t with
  | nil => rfl
  | cons m t ih =>
      by_cases hm : m.1 = key
      · simp [get?, hm] at h
      · have hrest := ih (by simpa [get?, hm] using h)
        simp only [set, hm, if_false, List.cons_append, hrest]

theorem keys_set_of_get?_eq_none {key : String} {t : Table α} (h : get? key t = none) (v : α) :
    (set key v t).keys = t.keys ++ [key] := by
  rw [set_of_get?_eq_none h, keys, List.map_append]
  rfl

/-- What is set last is found first. -/
theorem get?_update (key : String) (t new : Table α) :
    get? key (update t new) = (get? key (ofPairs new)).or (get? key t) := by
  induction new using List.reverseRecOn with
  | nil => rfl
  | append_singleton new m ih =>
      have hset : ∀ u : Table α, update u (new ++ [m]) = set m.1 m.2 (update u new) := by
        intro u
        rw [update, List.foldl_append]
        rfl
      rw [ofPairs, hset, hset, ← ofPairs]
      by_cases hkey : key = m.1
      · simp [hkey]
      · rw [get?_set_of_ne hkey, get?_set_of_ne hkey, ih]

theorem forall_mem_set {P : α → Prop} {key : String} {v : α} {t : Table α} (hv : P v)
    (ht : ∀ m ∈ t, P m.2) : ∀ m ∈ set key v t, P m.2 := by
  induction t with
  | nil => simpa [set] using hv
  | cons m t ih =>
      obtain ⟨hm, ht⟩ := List.forall_mem_cons.mp ht
      rw [set]
      split
      · exact List.forall_mem_cons.mpr ⟨hv, ht⟩
      · exact List.forall_mem_cons.mpr ⟨hm, ih ht⟩

theorem forall_mem_update {P : α → Prop} {t new : Table α} (ht : ∀ m ∈ t, P m.2)
    (hnew : ∀ m ∈ new, P m.2) : ∀ m ∈ update t new, P m.2 := by
  induction new generalizing t with
  | nil => exact ht
  | cons m new ih =>
      obtain ⟨hm, hnew⟩ := List.forall_mem_cons.mp hnew
      exact ih (forall_mem_set hm ht) hnew

theorem get?_ofPairs_eq_none {key : String} {new : Table α} (h : key ∉ new.keys) :
    get? key (ofPairs new) = none := by
  induction new using List.reverseRecOn with
  | nil => rfl
  | append_singleton new m ih =>
      rw [keys, List.map_append, List.mem_append, not_or] at h
      rw [ofPairs, update, List.foldl_append]
      refine (get?_set_of_ne ?_ _ _).trans (ih h.1)
      exact List.ne_of_not_mem_cons h.2

/-- Pairs of different names are a table already. -/
theorem ofPairs_eq_self {t : Table α} (h : t.keys.Nodup) : ofPairs t = t := by
  induction t using List.reverseRecOn with
  | nil => rfl
  | append_singleton t m ih =>
      rw [keys, List.map_append, List.nodup_append] at h
      obtain ⟨ht, -, hm⟩ := h
      have hnew : get? m.1 t = none := by
        rw [get?_eq_none_iff]
        intro n hn
        exact hm _ (List.mem_map_of_mem hn) _ (by simp)
      have hset : ofPairs (t ++ [m]) = set m.1 m.2 (ofPairs t) := by
        rw [ofPairs, update, List.foldl_append]
        rfl
      rw [hset, ih ht, set_of_get?_eq_none hnew]

theorem keys_erase (key : String) (t : Table α) :
    (erase key t).keys = t.keys.filter fun k => k ≠ key := by
  rw [keys, erase, keys, List.filter_map]
  rfl

theorem exists_get?_of_mem_keys {key : String} {t : Table α} (h : key ∈ t.keys) :
    ∃ v, get? key t = some v := by
  induction t with
  | nil => contradiction
  | cons m t ih =>
      by_cases hm : m.1 = key
      · exact ⟨m.2, by simp [get?, hm]⟩
      · have hrest : key ∈ keys t := by
          rw [keys, List.map_cons, List.mem_cons] at h
          exact h.resolve_left (Ne.symm hm)
        obtain ⟨v, hv⟩ := ih hrest
        exact ⟨v, by simpa [get?, hm] using hv⟩

theorem keys_mapValues {β : Type} (f : α → β) (t : Table α) : (mapValues f t).keys = t.keys := by
  rw [keys, mapValues, List.map_map]
  rfl

theorem get?_mapValues {β : Type} (f : α → β) (key : String) (t : Table α) :
    get? key (mapValues f t) = (get? key t).map f := by
  induction t with
  | nil => rfl
  | cons m t ih =>
      by_cases h : m.1 = key
      · simp [mapValues, get?, h]
      · simpa [mapValues, get?, h] using ih

end Questline.Table
