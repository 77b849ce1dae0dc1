/-!
# Caps

The first elements of a list, as many as a cap allows.
-/

namespace Questline

/-- At most `cap` elements; a negative cap drops as many at the end. -/
def capped {α : Type} (cap : Int) (xs : List α) : List α :=
  xs.take (if cap < 0 then ((xs.length : Int) + cap).toNat else cap.toNat)

theorem capped_of_length_le {α : Type} {cap : Int} {xs : List α} (h : xs.length ≤ cap) :
    capped cap xs = xs := by
  have hcap : ¬ cap < 0 := by omega
  simp only [capped, hcap, if_false]
  exact List.take_of_length_le (by omega)

end Questline
