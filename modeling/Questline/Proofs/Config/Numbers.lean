import Questline.Config

/-!
# Numbers in a configuration

Reading a configuration looks at certain values as integers.  It takes what it
can use, and the only values that it refuses are infinite numbers.
-/

namespace Questline

def Json.isInfinite : Json → Bool
  | .float (.infinite _) => true
  | _ => false

/-- The computation looks at these values as integers: it fails on an infinite one and on nothing
else. -/
structure Demands {α : Type} (x : Except Fault α) (numbers : List Json) : Prop where
  fails : numbers.any Json.isInfinite = true → x = .error .infiniteNumber
  succeeds : numbers.any Json.isInfinite = false → ∃ a, x = .ok a

namespace Demands

variable {α β : Type} {x : Except Fault α} {f : α → Except Fault β} {as bs : List Json}

theorem pure (a : α) : Demands (Pure.pure a : Except Fault α) [] where
  fails := nofun
  succeeds := fun _ => ⟨a, rfl⟩

theorem bind (hx : Demands x as) (hf : ∀ a, Demands (f a) bs) : Demands (x >>= f) (as ++ bs) where
  fails := by
    intro h
    rw [List.any_append, Bool.or_eq_true] at h
    cases has : as.any Json.isInfinite with
    | true =>
        rw [hx.fails has]
        rfl
    | false =>
        obtain ⟨a, ha⟩ := hx.succeeds has
        rw [ha]
        exact (hf a).fails (by simpa [has] using h)
  succeeds := by
    intro h
    rw [List.any_append, Bool.or_eq_false_iff] at h
    obtain ⟨a, ha⟩ := hx.succeeds h.1
    obtain ⟨b, hb⟩ := (hf a).succeeds h.2
    exact ⟨b, by rw [ha]; exact hb⟩

theorem map (hx : Demands x as) (f : α → β) : Demands (x >>= fun a => Pure.pure (f a)) as := by
  have h := hx.bind fun a => pure (f a)
  rwa [List.append_nil] at h

theorem mapM {f : α → Except Fault β} {numbers : α → List Json}
    (hf : ∀ a, Demands (f a) (numbers a)) (xs : List α) :
    Demands (xs.mapM f) (xs.flatMap numbers) := by
  induction xs with
  | nil => exact pure []
  | cons x xs ih =>
      rw [List.mapM_cons, List.flatMap_cons]
      exact (hf x).bind fun y => ih.map fun ys => y :: ys

theorem integerOr (default : Int) (v : Json) : Demands (v.integerOr default) [v] := by
  constructor
  · intro h
    have hinfinite : v.isInfinite = true := by simpa using h
    cases v with
    | float x => cases x <;> first | rfl | contradiction
    | _ => contradiction
  · intro h
    have hfinite : v.isInfinite = false := by simpa using h
    cases v with
    | str s =>
        cases hs : Text.integer? s with
        | none => exact ⟨default, by simp [Json.integerOr, Json.toInteger, hs]⟩
        | some n => exact ⟨n, by simp [Json.integerOr, Json.toInteger, hs]⟩
    | float x => cases x <;> first | exact ⟨_, rfl⟩ | contradiction
    | _ => exact ⟨_, rfl⟩

end Demands

namespace Config

/-- The values that the starting stats are read from. -/
def statNumbers (given : Table Json) : List Json :=
  Stat.all.map fun stat => (Table.get? stat.name given).getD .null

/-- The values that the modifiers of one tag are read from; other names than those of stats are
passed over. -/
def modifierNumbers (given : Table Json) : List Json :=
  given.flatMap fun p => if (Stat.ofName? p.1).isSome then [p.2] else []

def modifierTableNumbers (given : Table Json) : List Json :=
  given.flatMap fun p => modifierNumbers (p.2.asObject?.getD [])

/-- The settings that are integers, in the order in which they are read. -/
def integerNames : List String :=
  ["stat_increase_amount", "preferred_tag_weight", "starting_points", "xp_per_level", "quest_xp",
    "max_log_entries", "tag_skill_bonus", "die_sides"]

/-- The settings that a value gives, under their own names. -/
def settingsOf (v : Json) : Table Json :=
  Table.ofPairs ((v.asObject?.getD []).map fun p => (settingName p.1, p.2))

/-- All values that are looked at as integers when a configuration is read. -/
def numbersOf (v : Json) : List Json :=
  statNumbers
      (objectOr ({} : Config).startingStats.toTable (Table.get? "starting_stats" (settingsOf v))) ++
    (modifierTableNumbers (objectOr [] (Table.get? "stat_modifiers" (settingsOf v))) ++
      integerNames.map fun name => (Table.get? name (settingsOf v)).getD .null)

theorem readStats_demands (given : Table Json) :
    Demands (readStats given) (statNumbers given) := by
  unfold readStats
  refine (Demands.integerOr _ _).bind fun might => (Demands.integerOr _ _).bind fun guile => ?_
  exact (Demands.integerOr _ _).bind fun magic => Demands.pure _

theorem readModifiers_demands (given : Table Json) :
    Demands (readModifiers given) (modifierNumbers given) := by
  unfold readModifiers modifierNumbers
  refine (Demands.mapM (fun p => ?_) given).map _
  obtain ⟨name, v⟩ := p
  dsimp only
  cases Stat.ofName? name with
  | none => exact Demands.pure none
  | some stat => exact (Demands.integerOr 0 v).map fun n => some (stat, n)

theorem readModifierTable_demands (given : Table Json) :
    Demands (readModifierTable given) (modifierTableNumbers given) := by
  unfold readModifierTable modifierTableNumbers
  refine (Demands.mapM (fun p => ?_) given).map _
  obtain ⟨tag, v⟩ := p
  dsimp only
  cases v.asObject? with
  | none => exact Demands.pure none
  | some mods => exact (readModifiers_demands mods).map fun mods => some (tag, mods)

theorem readSettings_demands (stats modifiers settings : Table Json) :
    Demands (readSettings forgiving stats modifiers settings)
      (statNumbers stats ++ (modifierTableNumbers modifiers ++
        integerNames.map fun name => (Table.get? name settings).getD .null)) := by
  have hinteger : ∀ name default,
      Demands (forgiving.integer default (Table.get? name settings))
        [(Table.get? name settings).getD .null] :=
    fun name default => Demands.integerOr default _
  unfold readSettings
  refine (readStats_demands stats).bind fun _ => ?_
  refine (readModifierTable_demands modifiers).bind fun _ => ?_
  refine (hinteger _ _).bind fun _ => (hinteger _ _).bind fun _ => (hinteger _ _).bind fun _ => ?_
  refine (hinteger _ _).bind fun _ => (hinteger _ _).bind fun _ => (hinteger _ _).bind fun _ => ?_
  exact (hinteger _ _).bind fun _ => (hinteger _ _).bind fun _ => Demands.pure _

theorem ofJson_demands (v : Json) : Demands (ofJson v) (numbersOf v) := by
  unfold ofJson numbersOf settingsOf
  cases v.asObject? with
  | none =>
      -- the defaults are integers
      exact ⟨fun h => absurd h (by decide), fun _ => ⟨{}, rfl⟩⟩
  | some given => exact readSettings_demands _ _ _

end Config

end Questline
