import Questline.Fault
import Mathlib.Data.List.Forall2

/-!
# Attempts in a row

A list of attempts succeeds exactly if each of them does, and a chain of two if
the second succeeds on what the first one gives.
-/

namespace Questline

variable {ε α β : Type}

theorem bind_eq_ok_iff {x : Except ε α} {f : α → Except ε β} {b : β} :
    x >>= f = .ok b ↔ ∃ a, x = .ok a ∧ f a = .ok b := by
  cases x with
  | error e => simp [bind, Except.bind]
  | ok a => simp [bind, Except.bind]

theorem exists_bind_eq_ok_iff {x : Except ε α} {f : α → Except ε β} :
    (∃ b, x >>= f = .ok b) ↔ ∃ a, x = .ok a ∧ ∃ b, f a = .ok b := by
  cases x with
  | error e => simp [bind, Except.bind]
  | ok a => simp [bind, Except.bind]

theorem map_eq_ok_iff {x : Except ε α} {f : α → β} {b : β} :
    x.map f = .ok b ↔ ∃ a, x = .ok a ∧ f a = b := by
  cases x with
  | error e => simp [Except.map]
  | ok a => simp [Except.map]

theorem exists_mapM_eq_ok_iff {f : α → Except ε β} {xs : List α} :
    (∃ ys, xs.mapM f = .ok ys) ↔ ∀ x ∈ xs, ∃ y, f x = .ok y := by
  induction xs with
  | nil => simp [pure, Except.pure]
  | cons x xs ih =>
      simp only [List.mapM_cons, exists_bind_eq_ok_iff, ih, List.forall_mem_cons, pure, Except.pure,
        Except.ok.injEq, exists_eq', and_true]
      constructor
      · rintro ⟨y, hy, hxs⟩
        exact ⟨⟨y, hy⟩, hxs⟩
      · rintro ⟨⟨y, hy⟩, hxs⟩
        exact ⟨y, hy, hxs⟩

/-- Attempts that build on one another succeed if each of them does, whatever it is to build on. -/
theorem exists_foldlM_eq_ok_iff {f : β → α → Except ε β} {P : α → Prop} {xs : List α}
    (h : ∀ b, ∀ x ∈ xs, (∃ b', f b x = .ok b') ↔ P x) (b : β) :
    (∃ b', xs.foldlM f b = .ok b') ↔ ∀ x ∈ xs, P x := by
  induction xs generalizing b with
  | nil => simp [pure, Except.pure]
  | cons x xs ih =>
      have hrest := ih fun b x hx => h b x (List.mem_cons_of_mem _ hx)
      rw [List.foldlM_cons, exists_bind_eq_ok_iff, List.forall_mem_cons,
        ← h b x List.mem_cons_self]
      constructor
      · rintro ⟨b', hb', hall⟩
        exact ⟨⟨b', hb'⟩, (hrest b').mp hall⟩
      · rintro ⟨⟨b', hb'⟩, hall⟩
        exact ⟨b', hb', (hrest b').mpr hall⟩

/-- What each attempt gives is known by one of its features, and so is what they give together. -/
theorem exists_mapM_eq_ok_map_eq {γ : Type} {f : α → Except ε β} {g : β → γ} {k : α → γ}
    {xs : List α} (h : ∀ x ∈ xs, ∃ y, f x = .ok y ∧ g y = k x) :
    ∃ ys, xs.mapM f = .ok ys ∧ ys.map g = xs.map k := by
  induction xs with
  | nil => exact ⟨[], rfl, rfl⟩
  | cons x xs ih =>
      rw [List.forall_mem_cons] at h
      obtain ⟨y, hy, hyx⟩ := h.1
      obtain ⟨ys, hys, hyxs⟩ := ih h.2
      refine ⟨y :: ys, ?_, by rw [List.map_cons, List.map_cons, hyx, hyxs]⟩
      simp only [List.mapM_cons, hy, hys, bind, Except.bind, pure, Except.pure]

/-- What is done with each outcome may be done in the end. -/
theorem map_mapM {γ : Type} (f : α → Except ε β) (g : β → γ) (xs : List α) :
    (xs.mapM f).map (List.map g) = xs.mapM fun x => (f x).map g := by
  induction xs with
  | nil => rfl
  | cons x xs ih =>
      rw [List.mapM_cons, List.mapM_cons, ← ih]
      cases f x with
      | error e => rfl
      | ok y => cases xs.mapM f <;> rfl

theorem mapM_map_congr {γ : Type} {f : α → Except ε β} {g : γ → α} {f' : γ → Except ε β}
    {xs : List γ} (h : ∀ x ∈ xs, f (g x) = f' x) : (xs.map g).mapM f = xs.mapM f' := by
  induction xs with
  | nil => rfl
  | cons x xs ih =>
      rw [List.forall_mem_cons] at h
      rw [List.map_cons, List.mapM_cons, List.mapM_cons, h.1, ih h.2]

/-- A selection by attempts that all fail alike. -/
theorem filterM_map_eq {f : β → Except ε Bool} {g : α → β} {test sound : α → Bool} {e : ε}
    {xs : List α} (h : ∀ x ∈ xs, f (g x) = if sound x then .ok (test x) else .error e) :
    (xs.map g).filterM f = if xs.all sound then .ok ((xs.filter test).map g) else .error e := by
  -- What has been selected so far is kept in reverse.
  have haux : ∀ acc, List.filterAuxM f (xs.map g) acc =
      if xs.all sound then .ok (((xs.filter test).map g).reverse ++ acc) else .error e := by
    induction xs with
    | nil => exact fun acc => rfl
    | cons x xs ih =>
        rw [List.forall_mem_cons] at h
        intro acc
        rw [List.map_cons, List.filterAuxM, h.1]
        cases hsound : sound x with
        | false => simp [hsound, bind, Except.bind]
        | true => cases htest : test x <;> simp [hsound, htest, bind, Except.bind, ih h.2]
  rw [List.filterM, haux]
  cases xs.all sound <;> simp [bind, Except.bind, pure, Except.pure]

/-- What a list of attempts gives, one for each of them and in order. -/
theorem forall₂_of_mapM_eq_ok {f : α → Except ε β} {xs : List α} {ys : List β}
    (h : xs.mapM f = .ok ys) : List.Forall₂ (fun x y => f x = .ok y) xs ys := by
  induction xs generalizing ys with
  | nil =>
      obtain rfl := Except.ok.inj h
      exact .nil
  | cons x xs ih =>
      rw [List.mapM_cons, bind_eq_ok_iff] at h
      obtain ⟨y, hy, h⟩ := h
      rw [bind_eq_ok_iff] at h
      obtain ⟨rest, hrest, h⟩ := h
      obtain rfl := Except.ok.inj h
      exact .cons hy (ih hrest)

theorem forall₂_of_mapM_eq_some {f : α → Option β} {xs : List α} {ys : List β}
    (h : xs.mapM f = some ys) : List.Forall₂ (fun x y => f x = some y) xs ys := by
  induction xs generalizing ys with
  | nil =>
      obtain rfl := Option.some.inj h
      exact .nil
  | cons x xs ih =>
      rw [List.mapM_cons, Option.bind_eq_bind, Option.bind_eq_some_iff] at h
      obtain ⟨y, hy, h⟩ := h
      rw [Option.bind_eq_bind, Option.bind_eq_some_iff] at h
      obtain ⟨rest, hrest, h⟩ := h
      obtain rfl := Option.some.inj h
      exact .cons hy (ih hrest)

/-- What holds pairwise may be shown with the left elements known to be in the list. -/
theorem forall₂_imp_of_mem {R S : α → β → Prop} {xs : List α} {ys : List β}
    (h : List.Forall₂ R xs ys) (himp : ∀ x ∈ xs, ∀ y, R x y → S x y) : List.Forall₂ S xs ys := by
  have hmem : ∀ x ∈ xs, x ∈ xs := fun x hx => hx
  apply ((List.forall₂_and_left _ _).mpr ⟨hmem, h⟩).imp
  rintro x y ⟨hx, hxy⟩
  exact himp x hx y hxy

theorem exists_append_of_forall₂ {R : α → β → Prop} {xs₁ xs₂ : List α} {ys : List β}
    (h : List.Forall₂ R (xs₁ ++ xs₂) ys) :
    ∃ ys₁ ys₂, List.Forall₂ R xs₁ ys₁ ∧ List.Forall₂ R xs₂ ys₂ ∧ ys = ys₁ ++ ys₂ := by
  have hfirst := List.forall₂_take xs₁.length h
  have hsecond := List.forall₂_drop xs₁.length h
  rw [List.take_left] at hfirst
  rw [List.drop_left] at hsecond
  exact ⟨_, _, hfirst, hsecond, (List.take_append_drop _ _).symm⟩

theorem exists_mem_of_forall₂ {R : α → β → Prop} {xs : List α} {ys : List β}
    (h : List.Forall₂ R xs ys) {y : β} (hy : y ∈ ys) : ∃ x ∈ xs, R x y := by
  induction h with
  | nil => contradiction
  | cons hxy hrest ih =>
      rcases List.mem_cons.mp hy with rfl | hy
      · exact ⟨_, List.mem_cons_self, hxy⟩
      · obtain ⟨x, hx, hread⟩ := ih hy
        exact ⟨x, List.mem_cons_of_mem _ hx, hread⟩

theorem exists_itemsOf_eq_ok_iff {v : Json} : (∃ xs, v.itemsOf = .ok xs) ↔ v.items? ≠ none := by
  unfold Json.itemsOf
  cases v.items? <;> simp

end Questline
