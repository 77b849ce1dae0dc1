import Questline.SkillCheck

/-!
# What a tag is worth in a skill check

Every skill that is named brings its own bonus, and every copy of a tag counts
in each of them: as the tag itself, or through what it adds to a stat.  So one
more copy changes the total by the same amount whoever holds it, and a roll of
the die stays between one and the number of its sides.
-/

namespace Questline

variable {config : Config} {p : Player} {tag skill : String} {skills : List String}

/-- What one more copy of a tag adds to the bonus of a skill. -/
def copyWorth (config : Config) (tag skill : String) : Int :=
  match Stat.ofName? skill with
  | some stat => Player.modifierOf config stat tag
  | none => if skill = tag then config.tagSkillBonus else 0

/-- What one more copy of a tag adds to a check: the bonus of the tag for every skill of its name,
unless it is the name of a stat, and for every stat among the skills the modifier of the tag. -/
def checkWorth (config : Config) (tag : String) (skills : List String) : Int :=
  (if (Stat.ofName? tag).isSome then 0 else config.tagSkillBonus * skills.count tag) +
    total ((skills.filterMap Stat.ofName?).map fun stat => Player.modifierOf config stat tag)

theorem Player.effectiveStat_addTag (p : Player) (config : Config) (tag : String) (stat : Stat) :
    (p.addTag tag).effectiveStat config stat =
      p.effectiveStat config stat + modifierOf config stat tag := by
  simp only [effectiveStat, statModifier, addTag, List.map_append, total_append, List.map_cons,
    List.map_nil, total]
  omega

theorem Player.count_addTag (p : Player) (tag other : String) :
    (p.addTag tag).count other = p.count other + if other = tag then 1 else 0 := by
  simp only [count, addTag, List.count_append, List.count_singleton, beq_iff_eq, eq_comm (a := tag)]

theorem value_skillBonus_addTag (config : Config) (p : Player) (tag skill : String) :
    (skillBonus config (p.addTag tag) skill).value =
      (skillBonus config p skill).value + copyWorth config tag skill := by
  unfold skillBonus copyWorth
  cases Stat.ofName? skill with
  | some stat => exact p.effectiveStat_addTag config tag stat
  | none =>
      simp only [p.count_addTag tag skill]
      split
      · push_cast
        rw [Int.add_mul, Int.one_mul]
      · simp

theorem total_copyWorth (config : Config) (tag : String) (skills : List String) :
    total (skills.map (copyWorth config tag)) = checkWorth config tag skills := by
  unfold checkWorth
  induction skills with
  | nil => simp [total]
  | cons skill skills ih =>
      rw [List.map_cons, total, ih, copyWorth, List.count_cons]
      cases hstat : Stat.ofName? skill with
      | some stat =>
          -- a skill that is a stat is no tag of that name
          have hne : (Stat.ofName? tag).isSome = false → skill ≠ tag := by
            rintro hnone rfl
            simp [hstat] at hnone
          rw [List.filterMap_cons_some hstat, List.map_cons, total]
          cases htag : (Stat.ofName? tag).isSome with
          | true => simp
          | false =>
              simp [hne htag]
              omega
      | none =>
          rw [List.filterMap_cons_none hstat]
          by_cases hsame : skill = tag
          · subst hsame
            simp [hstat, Int.mul_add]
            omega
          · simp [hsame]

/-- A die shows at least one, and at most the number of its sides. -/
theorem Draws.roll_bounds (d : Draws) {sides : Int} (h : 0 < sides) :
    1 ≤ (d.roll sides).1 ∧ (d.roll sides).1 ≤ sides := by
  have hsides : 0 < sides.toNat := by omega
  have hlt := d.pick_lt hsides
  simp only [roll]
  omega

/-- One more copy of a tag is worth the same in every check with the same roll.  The total of a
check is the roll with the listed bonuses, the check succeeds if this reaches the difficulty, and a
roll that is not announced is one that the die can show. -/
theorem total_of_one_more_copy (config : Config) (skills : List String) (dc : Int) (p : Player) :
    (∀ tag roll draws draws',
      (checkSkills config skills dc (p.addTag tag) (some roll) draws).1.total =
        (checkSkills config skills dc p (some roll) draws').1.total +
          checkWorth config tag skills) ∧
    ∀ announced draws check, (checkSkills config skills dc p announced draws).1 = check →
      check.bonuses = skills.map (skillBonus config p) ∧
      check.total = check.roll + total (check.bonuses.map (·.value)) ∧
      (check.success = true ↔ dc ≤ check.total) ∧
      (∀ roll, announced = some roll → check.roll = roll) ∧
      (announced = none → 0 < config.dieSides → 1 ≤ check.roll ∧ check.roll ≤ config.dieSides) := by
  constructor
  · intro tag roll draws draws'
    simp only [checkSkills, rollFor, SkillCheck.of, List.map_map, Function.comp_def,
      value_skillBonus_addTag, total_map_add, total_copyWorth]
    omega
  · rintro announced draws check rfl
    refine ⟨rfl, rfl, decide_eq_true_iff, ?_, ?_⟩
    · rintro roll rfl
      rfl
    · rintro rfl hsides
      exact draws.roll_bounds hsides

/-- A curse weighs on every skill that is a stat, and counts as a skill itself. -/
theorem total_of_one_more_curse :
    let config : Config := { statModifiers := [("cursed", [(.might, -3)])], tagSkillBonus := 2 }
    let skills := ["might", "cursed", "guile", "might"]
    let totalOf (p : Player) := (checkSkills config skills 9 p (some 4) {}).1.total
    0 < config.dieSides ∧ totalOf (Player.addTag {} "cursed") = totalOf {} - 4 ∧
      1 ≤ (checkSkills config skills 9 {} none ⟨[41], []⟩).1.roll ∧
      (checkSkills config skills 9 {} none ⟨[41], []⟩).1.roll ≤ config.dieSides := by
  intro config skills totalOf
  have hsides : 0 < config.dieSides := by decide
  obtain ⟨hcopy, hcheck⟩ := total_of_one_more_copy config skills 9 {}
  obtain ⟨-, -, -, -, hroll⟩ := hcheck none ⟨[41], []⟩ _ rfl
  refine ⟨hsides, ?_, hroll rfl hsides⟩
  have hworth : checkWorth config "cursed" skills = -4 := by decide
  simp only [totalOf, hcopy "cursed" 4 {} {}, hworth]
  rfl

end Questline
