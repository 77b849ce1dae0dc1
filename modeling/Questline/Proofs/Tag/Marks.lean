import Questline.Tag

/-!
# Marks of tokens

The first character of a token tells whether it prefers, grants or consumes;
a token that grants or consumes has all that follows as its name.
-/

namespace Questline.Tag

variable {token : String} {name : List Char}

theorem operator_ofToken (token : String) :
    (ofToken token).operator = (Operator.split token.toList).1 := by
  unfold ofToken parts
  dsimp only
  split
  · rfl
  · split
    · rfl
    · rfl

theorem operator_ofToken_eq_prefer_iff :
    (ofToken token).operator = .prefer ↔ Text.leads "@" token = true := by
  rw [operator_ofToken, Text.leads]
  change _ ↔ (Text.afterLead? ['@'] token.toList).isSome = true
  rw [Option.isSome_iff_exists]
  simp only [Text.afterLead?_eq_some, List.singleton_append]
  generalize token.toList = cs
  unfold Operator.split
  split
  all_goals simp_all

theorem ofToken_of_plus (h : token.toList = '+' :: name) :
    ofToken token = ⟨.grant, .ofList name, none, none⟩ := by
  rw [ofToken, h]
  rfl

theorem ofToken_of_minus (h : token.toList = '-' :: name) :
    ofToken token = ⟨.consume, .ofList name, none, none⟩ := by
  rw [ofToken, h]
  rfl

theorem isMutation_ofToken_eq_false (hplus : ∀ name, token.toList ≠ '+' :: name)
    (hminus : ∀ name, token.toList ≠ '-' :: name) : (ofToken token).isMutation = false := by
  rw [isMutation, operator_ofToken]
  unfold Operator.split
  split
  · rfl
  · rfl
  · rfl
  · rfl
  · next h => exact absurd h (hplus _)
  · next h => exact absurd h (hminus _)
  · rfl

/-! ## What a condition asks for -/

/-- What a tag that tests something asks of the number of copies that are held. -/
def Asks (t : Tag) (n : Int) : Prop :=
  match t.comparison, t.value with
  | some .equal, some k => n = k
  | some .less, some k => n < k
  | some .greater, some k => k < n
  | _, _ => 1 ≤ n

/-- Counts satisfy a tag if they are as it asks, or, under a forbidding one, if they are not.  Tags
that are no conditions on the player are satisfied anyway. -/
def Satisfied (t : Tag) (counts : Counts) : Prop :=
  (t.operator = .require ∨ t.operator = .prefer → t.Asks (counts t.name)) ∧
    (t.operator = .forbid → ¬ t.Asks (counts t.name))

theorem holds_eq_true_iff {t : Tag} {counts : Counts} :
    t.holds counts = true ↔ t.Asks (counts t.name) := by
  obtain ⟨operator, name, comparison, value⟩ := t
  rcases comparison with - | (_ | _ | _ | _)
  all_goals
    cases value
    all_goals simp [holds, comparisonHolds, Comparison.holds, Asks]

theorem met_eq_true_iff {t : Tag} {counts : Counts} :
    t.met counts = true ↔ t.Satisfied counts := by
  unfold met Satisfied
  rw [← holds_eq_true_iff]
  cases hoperator : t.operator with
  | forbid => simp [isPlayerCondition, hoperator, Operator.isPlayerCondition]
  | _ => simp [isPlayerCondition, hoperator, Operator.isPlayerCondition]

end Questline.Tag
