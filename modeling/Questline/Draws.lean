/-!
# Draws

The source of chance: numbers that are drawn one after the other, zero once
they have run out, and the record of what was decided with them.
-/

namespace Questline

/-- One decision: among how many, and which was picked. -/
structure Decision where
  size : Nat
  picked : Nat
deriving DecidableEq

structure Draws where
  pending : List Nat := []
  decisions : List Decision := []
deriving DecidableEq

namespace Draws

/-- Picks a place among `size` many with the next number. -/
def pick (d : Draws) (size : Nat) : Nat × Draws :=
  let picked := d.pending.headD 0 % size
  (picked, ⟨d.pending.tail, d.decisions ++ [⟨size, picked⟩]⟩)

/-- Picks an element; of an empty list none, and then nothing is drawn. -/
def choose {α : Type} (d : Draws) (xs : List α) : Option α × Draws :=
  if xs.isEmpty then (none, d)
  else
    let (i, d) := d.pick xs.length
    (xs[i]?, d)

/-- A roll of a die whose sides are numbered from one. -/
def roll (d : Draws) (sides : Int) : Int × Draws :=
  let (i, d) := d.pick sides.toNat
  (1 + i, d)

/-- The same numbers still to come, with the decisions so far forgotten. -/
def forget (d : Draws) : Draws := { d with decisions := [] }

theorem pick_lt (d : Draws) {size : Nat} (h : 0 < size) : (d.pick size).1 < size :=
  Nat.mod_lt _ h

theorem choose_of_ne_nil (d : Draws) {α : Type} {xs : List α} (h : xs ≠ []) :
    d.choose xs = (xs[(d.pick xs.length).1]?, (d.pick xs.length).2) := by
  simp [choose, h]

theorem choose_isSome (d : Draws) {α : Type} {xs : List α} (h : xs ≠ []) :
    (d.choose xs).1.isSome := by
  have hlen : 0 < xs.length := List.length_pos_iff.2 h
  simp [choose_of_ne_nil d h, d.pick_lt hlen]

end Draws

end Questline
