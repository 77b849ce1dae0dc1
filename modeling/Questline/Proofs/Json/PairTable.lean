import Questline.Json.PairTable
import Questline.Proofs.Table
import Mathlib.Data.List.Forall2

/-!
# Tables from pairs, asked for texts

A name may be any scalar, but a text compares equal to itself only.  So for
texts a table of pairs is an ordinary table: what was set last is found, and a
table without a text name in two places is known by what is found in it.
-/

namespace Questline

namespace Json

theorem alikeWithin_str {nested : Bool} {k : Json} {s : String} :
    k.alikeWithin nested (.str s) = true ↔ k = .str s := by
  cases k <;> simp [alikeWithin, alikeScalar, countingValue?]

end Json

namespace PairTable

variable {t u : PairTable} {new : Table Json} {s : String} {k v : Json}

/-! ## What holds of all values -/

theorem forall_mem_set {P : Json → Prop} {key x : Json} (hx : P x) (ht : ∀ e ∈ t, P e.2) :
    ∀ e ∈ set key x t, P e.2 := by
  induction t with
  | nil => simpa [set] using hx
  | cons e t ih =>
      obtain ⟨he, ht⟩ := List.forall_mem_cons.mp ht
      rw [set]
      split
      · exact List.forall_mem_cons.mpr ⟨hx, ht⟩
      · exact List.forall_mem_cons.mpr ⟨he, ih ht⟩

theorem forall_mem_update {P : Json → Prop} (ht : ∀ e ∈ t, P e.2) (hu : ∀ e ∈ u, P e.2) :
    ∀ e ∈ update t u, P e.2 := by
  induction u generalizing t with
  | nil => exact ht
  | cons e u ih =>
      obtain ⟨he, hu⟩ := List.forall_mem_cons.mp hu
      exact ih (forall_mem_set he ht) hu

/-! ## Texts -/

theorem get?_cons_str (k v : Json) (t : PairTable) (s : String) :
    get? (.str s) ((k, v) :: t) = if k = .str s then some v else get? (.str s) t := by
  simp only [get?, Json.alikeWithin_str]

theorem set_cons_str (s : String) (v k w : Json) (t : PairTable) :
    set (.str s) v ((k, w) :: t) =
      if k = .str s then (k, v) :: t else (k, w) :: set (.str s) v t := by
  simp only [set, Json.alikeWithin_str]

theorem get?_str_eq_none_iff : get? (.str s) t = none ↔ ∀ entry ∈ t, entry.1 ≠ .str s := by
  induction t with
  | nil => simp [get?]
  | cons entry t ih =>
      obtain ⟨k, v⟩ := entry
      rw [get?_cons_str, List.forall_mem_cons, ← ih]
      by_cases hk : k = .str s <;> simp [hk]

theorem get?_set_str (s r : String) (v : Json) (t : PairTable) :
    get? (.str r) (set (.str s) v t) = if s = r then some v else get? (.str r) t := by
  induction t with
  | nil => simp only [set, get?_cons_str, Json.str.injEq]
  | cons entry t ih =>
      obtain ⟨k, w⟩ := entry
      rw [set_cons_str]
      split
      · next hk =>
          subst hk
          simp only [get?_cons_str, Json.str.injEq]
          by_cases hsr : s = r <;> simp [hsr]
      · next hk =>
          simp only [get?_cons_str, ih]
          by_cases hkr : k = .str r
          · have hsr : s ≠ r := fun hsr => hk (hsr ▸ hkr)
            simp [hkr, hsr]
          · simp [hkr]

/-- After an update, what is found under a text is either new, whatever the table was before, or
what was found there before. -/
theorem get?_update_cases (s : String) (new : Table Json) :
    (∃ v, ∀ t, get? (.str s) (update t (ofTable new)) = some v) ∨
      (∀ t, get? (.str s) (update t (ofTable new)) = get? (.str s) t) ∧
        ∀ entry ∈ new, entry.1 ≠ s := by
  induction new with
  | nil => exact .inr ⟨fun t => rfl, nofun⟩
  | cons entry new ih =>
      obtain ⟨k, x⟩ := entry
      have hcons : ∀ t, update t (ofTable ((k, x) :: new)) =
          update (set (.str k) x t) (ofTable new) := fun t => rfl
      simp only [hcons]
      -- what the rest sets wins over the entry before it
      rcases ih with ⟨v, hv⟩ | ⟨hrest, hnames⟩
      · exact .inl ⟨v, fun t => hv _⟩
      · simp only [hrest, get?_set_str]
        by_cases hk : k = s
        · exact .inl ⟨x, fun t => if_pos hk⟩
        · refine .inr ⟨fun t => if_neg hk, ?_⟩
          exact List.forall_mem_cons.mpr ⟨hk, hnames⟩

/-! ## Tables that differ in values only -/

/-- No text is the name of two entries. -/
def Distinct (t : PairTable) : Prop :=
  t.Pairwise fun p q => ∀ s : String, p.1 = .str s → q.1 ≠ .str s

/-- The same names in the same order, with the same values under names that are no texts. -/
def SameNames (t u : PairTable) : Prop :=
  List.Forall₂ (fun p q => p.1 = q.1 ∧ ((∃ s : String, q.1 = .str s) ∨ p.2 = q.2)) t u

theorem SameNames.refl (t : PairTable) : SameNames t t := by
  induction t with
  | nil => exact .nil
  | cons entry t ih => exact .cons ⟨rfl, .inr rfl⟩ ih

theorem SameNames.get?_eq_none_iff (h : SameNames t u) (s : String) :
    get? (.str s) t = none ↔ get? (.str s) u = none := by
  induction h with
  | nil => rfl
  | @cons p q t u hpq hrest ih =>
      obtain ⟨k, v⟩ := p
      obtain ⟨l, w⟩ := q
      obtain rfl : k = l := hpq.1
      rw [get?_cons_str, get?_cons_str]
      by_cases hk : k = .str s
      · simp [hk]
      · rw [if_neg hk, if_neg hk, ih]

theorem SameNames.set (h : SameNames t u) (hs : get? (.str s) u ≠ none) (v : Json) :
    SameNames (set (.str s) v t) u := by
  induction h with
  | nil => exact absurd rfl hs
  | @cons p q t u hpq hrest ih =>
      obtain ⟨k, w⟩ := p
      rw [set_cons_str]
      split
      · next hk => exact .cons ⟨hpq.1, .inl ⟨s, hpq.1 ▸ hk⟩⟩ hrest
      · next hk =>
          obtain rfl : k = q.1 := hpq.1
          rw [get?_cons_str, if_neg hk] at hs
          exact .cons hpq (ih hs)

theorem SameNames.update (h : SameNames t u)
    (hnew : ∀ entry ∈ new, get? (.str entry.1) u ≠ none) :
    SameNames (update t (ofTable new)) u := by
  induction new generalizing t with
  | nil => exact h
  | cons entry new ih =>
      rw [List.forall_mem_cons] at hnew
      exact ih (h.set hnew.1 entry.2) hnew.2

/-- A table is known by its names and by what is found under those that are texts. -/
theorem SameNames.eq (h : SameNames t u) (hu : u.Distinct)
    (hget : ∀ s : String, get? (.str s) t = get? (.str s) u) : t = u := by
  induction h with
  | nil => rfl
  | @cons p q t u hpq hrest ih =>
      obtain ⟨k, v⟩ := p
      obtain ⟨l, w⟩ := q
      obtain ⟨rfl, hvalue⟩ : k = l ∧ _ := hpq
      have hrest : SameNames t u := hrest
      obtain ⟨hhead, htail⟩ := List.pairwise_cons.mp hu
      have hvw : v = w := by
        rcases hvalue with ⟨s, rfl⟩ | hvalue
        · simpa [get?_cons_str] using hget s
        · exact hvalue
      subst hvw
      congr 1
      refine ih htail fun s => ?_
      have hs := hget s
      simp only [get?_cons_str] at hs
      by_cases hk : k = .str s
      · -- the text stands at the head, and nowhere else
        have hnone : get? (.str s) u = none :=
          get?_str_eq_none_iff.mpr fun entry hentry => hhead entry hentry s hk
        rw [hnone, hrest.get?_eq_none_iff, hnone]
      · simpa [hk] using hs

/-! ## Entries under new names -/

/-- The entries of `new` are added, those under names that are there already left out. -/
def supplement (t new : PairTable) : PairTable :=
  new.foldl (fun t p => if (get? p.1 t).isSome then t else t ++ [p]) t

theorem Distinct.append {p : Json × Json} (h : Distinct t) (hp : get? p.1 t = none) :
    Distinct (t ++ [p]) := by
  refine List.pairwise_append.mpr ⟨h, List.pairwise_singleton _ _, ?_⟩
  intro q hq r hr s hname
  obtain rfl := List.mem_singleton.mp hr
  intro hsame
  rw [hsame] at hp
  exact get?_str_eq_none_iff.mp hp q hq hname

theorem Distinct.supplement (h : Distinct t) (new : PairTable) : Distinct (t.supplement new) := by
  unfold PairTable.supplement
  induction new generalizing t with
  | nil => exact h
  | cons p new ih =>
      rw [List.foldl_cons]
      apply ih
      split
      · exact h
      · next hp => exact h.append (by simpa using hp)

/-! ## Tables with texts for names -/

theorem map_ofTable {spell : Json → String} (hspell : ∀ s, spell (.str s) = s) (t : Table Json) :
    (ofTable t).map (fun p => (spell p.1, p.2)) = t := by
  rw [ofTable, List.map_map]
  simp [Function.comp_def, hspell]

theorem written_ofTable {t : Table Json} (h : t.keys.Nodup) : (ofTable t).written = t := by
  rw [written, map_ofTable fun _ => rfl, Table.ofPairs_eq_self h]

theorem described_ofTable {t : Table Json} (h : t.keys.Nodup)
    (hgiven : ∀ m ∈ t, m.2.isNull = false) : (ofTable t).described = t := by
  have hall : (ofTable t).filter (fun p => !p.2.isNull) = ofTable t := by
    rw [List.filter_eq_self]
    intro p hp
    obtain ⟨m, hm, rfl⟩ := List.mem_map.mp hp
    simp [hgiven m hm]
  rw [described, hall, map_ofTable fun _ => rfl, Table.ofPairs_eq_self h]

end PairTable

end Questline
