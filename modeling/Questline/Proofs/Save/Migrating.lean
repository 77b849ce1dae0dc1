import Questline.Proofs.Json.Levels
import Questline.Save.Store

/-!
# Migrating a save

A save of the current schema is left as it is.  One of the first is brought to it in a single step,
which stops on a flat save with a block that nothing can go through; and a save that is nested too
deep to be copied stops any migration.  What comes out is of the current schema, so that there is
nothing more to be done to it.  It may be nested two levels deeper than the save was, however, and
then be too deep to be copied again.
-/

namespace Questline

namespace Migration

variable {spell : Spelling} {save : Json} {n : Int}

/-- An object, or something to go through whose elements are pairs of a name and a value. -/
def IsPairs (v : Json) : Prop :=
  v.isObject = true ∨
    ∃ xs, v.items? = some xs ∧ ∀ x ∈ xs, ∃ k y, x.items? = some [k, y] ∧ k.isContainer = false

/-- A block of a flat save is not what the sheet needs: tags and log have to offer something to go
through, the variables have to be pairs. -/
def IsBlocked (save : Json) : Prop :=
  (givenOr (save.memberOrNull "character") "metadata" (.arr [])).items? = none ∨
    ¬ IsPairs (givenOr save "questVars" (.obj [])) ∨
    (givenOr save "questLog" (.arr [])).items? = none

/-- A save of the first schema with a character, but with a block that is not what the sheet
needs. -/
structure StopsFlat (save : Json) : Prop where
  first : (versionOf save).countingValue? = some 0
  flat : (save.memberOrNull "state").isObject = false
  character : (save.memberOrNull "character").isObject = true
  block : IsBlocked save

/-- A save with a number; one without is of the first schema. -/
structure IsOfSchema (n : Int) (save : Json) : Prop where
  object : save.isObject = true
  number : (versionOf save).countingValue? = some n

/-- A save that is not too new is nested too deep to be copied. -/
structure StopsDeep (save : Json) : Prop where
  known : ∃ n ≤ SaveStore.schema, IsOfSchema n save
  deep : save.isCopyable = false

/-- The saves whose migration stops. -/
inductive Stops (save : Json) : Prop where
  | deep (h : StopsDeep save)
  | flat (h : StopsFlat save)

theorem exists_entryOf_eq_ok_iff {x : Json} :
    (∃ e, PairTable.entryOf x = .ok e) ↔
      ∃ k y, x.items? = some [k, y] ∧ k.isContainer = false := by
  unfold PairTable.entryOf
  split
  · next hitems => simp [hitems]
  · next k y hitems => cases hk : k.isContainer <;> simp_all
  · next xs hpair hitems =>
      simp only [reduceCtorEq, exists_false, false_iff]
      rintro ⟨k, y, hxs, -⟩
      rw [hitems] at hxs
      exact hpair k y (Option.some.inj hxs)

theorem exists_ofJson_eq_ok_iff {v : Json} :
    (∃ t, PairTable.ofJson v = .ok t) ↔ IsPairs v := by
  by_cases hobject : v.isObject = true
  · cases v with
    | obj ms => exact iff_of_true ⟨_, rfl⟩ (.inl rfl)
    | _ => contradiction
  · have hpairs : PairTable.ofJson v =
        (do return PairTable.update [] (← (← v.itemsOf).mapM PairTable.entryOf)) := by
      cases v with
      | obj ms => exact absurd rfl hobject
      | _ => rfl
    have hitems : ∀ xs, v.itemsOf = .ok xs ↔ v.items? = some xs := by
      intro xs
      unfold Json.itemsOf
      cases v.items? <;> simp
    rw [hpairs]
    simp only [exists_bind_eq_ok_iff, hitems, IsPairs, hobject, Bool.false_eq_true, false_or]
    refine exists_congr fun xs => and_congr_right fun _ => ?_
    simp only [← exists_entryOf_eq_ok_iff, ← exists_mapM_eq_ok_iff, pure, Except.pure,
      Except.ok.injEq, exists_eq', and_true]

theorem flatSheet_of_no_character (h : (save.memberOrNull "character").isObject = false) :
    flatSheet spell save = .error .noCharacter := by
  rw [flatSheet, h]
  rfl

/-- With a character, only the blocks keep a flat save from giving a sheet. -/
theorem flatSheet_cases (spell : Spelling)
    (h : (save.memberOrNull "character").isObject = true) :
    (IsBlocked save ∧ ∃ f, flatSheet spell save = .error (.fault f)) ∨
      (¬ IsBlocked save ∧ ∃ sheet, flatSheet spell save = .ok sheet) := by
  have hblock : ∀ v : Json, v.items? = none ↔ ¬ ∃ xs, v.itemsOf = .ok xs := by
    intro v
    rw [exists_itemsOf_eq_ok_iff, ne_eq, Classical.not_not]
  rw [IsBlocked, ← exists_ofJson_eq_ok_iff, hblock, hblock, flatSheet]
  simp only [h, Bool.not_true, Bool.false_eq_true, if_false]
  cases (givenOr (save.memberOrNull "character") "metadata" (.arr [])).itemsOf with
  | error f => simp [lift, bind, Except.bind]
  | ok tags =>
      cases PairTable.ofJson (givenOr save "questVars" (.obj [])) with
      | error f => simp [lift, bind, Except.bind]
      | ok vars =>
          cases (givenOr save "questLog" (.arr [])).itemsOf with
          | error f => simp [lift, bind, Except.bind]
          | ok log => simp [lift, bind, Except.bind, pure, Except.pure]

theorem flatSheet_stops_iff :
    (∃ f, flatSheet spell save = .error (.fault f)) ↔
      (save.memberOrNull "character").isObject = true ∧ IsBlocked save := by
  cases hcharacter : (save.memberOrNull "character").isObject with
  | false => simp [flatSheet_of_no_character hcharacter]
  | true =>
      obtain ⟨hblocked, hstops⟩ | ⟨hclear, sheet, hsheet⟩ := flatSheet_cases spell hcharacter
      · simp [hblocked, hstops]
      · simp [hclear, hsheet]

/-- There is a sheet for a character whose blocks are what the sheet needs. -/
theorem exists_flatSheet_iff (spell : Spelling) (save : Json) :
    (∃ sheet, flatSheet spell save = .ok sheet) ↔
      (save.memberOrNull "character").isObject = true ∧ ¬ IsBlocked save := by
  cases hcharacter : (save.memberOrNull "character").isObject with
  | false => simp [flatSheet_of_no_character hcharacter]
  | true =>
      obtain ⟨hblocked, f, hf⟩ | ⟨hclear, hsheet⟩ := flatSheet_cases spell hcharacter
      · simp [hblocked, hf]
      · simp [hclear, hsheet]

theorem toSecondSchema_stops_iff :
    (∃ f, toSecondSchema spell save = .error (.fault f)) ↔
      (save.memberOrNull "state").isObject = false ∧
        ∃ f, flatSheet spell save = .error (.fault f) := by
  rw [toSecondSchema, stateOf]
  cases hstate : (save.memberOrNull "state").isObject with
  | true => simp [bind, Except.bind, pure, Except.pure]
  | false => cases flatSheet spell save <;> simp [bind, Except.bind, pure, Except.pure]

/-! ## The ways of a migration -/

/-- The ways in which bringing a save to the current schema can go. -/
inductive MigrationExit (spell : Spelling) (save : Json) : Except MigrationFault Json → Prop where
  | current (current : IsOfSchema SaveStore.schema save) (shallow : save.isCopyable = true) :
      MigrationExit spell save (.ok save)
  | first (first : IsOfSchema 0 save) (shallow : save.isCopyable = true) :
      MigrationExit spell save (toSecondSchema spell save)
  | deep (stops : StopsDeep save) : MigrationExit spell save (.error (.fault .tooDeep))
  | refused {why : MigrationFault} (declared : why.message?.isSome = true)
      (not_current : ¬ IsOfSchema SaveStore.schema save) (not_first : ¬ IsOfSchema 0 save)
      (not_deep : ¬ StopsDeep save) : MigrationExit spell save (.error why)

theorem IsOfSchema.unique {m : Int} (h : IsOfSchema m save) (h' : IsOfSchema n save) : m = n :=
  Option.some.inj (h.number.symm.trans h'.number)

/-- From the first schema it is a single step to the second. -/
theorem climb_first {version : Json} (hversion : version.countingValue? = some 0) :
    climb spell 1 version save = toSecondSchema spell save := by
  rw [climb, if_pos hversion]
  cases toSecondSchema spell save <;> rfl

theorem climb_of_ne_zero {version : Json} (hversion : version.countingValue? = some n) (hn : n ≠ 0)
    (steps : Nat) :
    climb spell (steps + 1) version save = .error (.noMigration version.describe) := by
  rw [climb, if_neg]
  rw [hversion, Option.some.injEq]
  exact hn

theorem migrateSpelt_of_schema (spell : Spelling) (h : IsOfSchema n save) :
    migrateSpelt spell save SaveStore.schema =
      if SaveStore.schema < n then .error (.tooNew (versionOf save).describe SaveStore.schema)
      else if save.isCopyable then
        climb spell (SaveStore.schema - n).toNat (versionOf save) save
      else .error (.fault .tooDeep) := by
  unfold migrateSpelt
  simp only [h.object, h.number, Bool.not_true, Bool.false_eq_true, if_false]
  cases save.isCopyable <;> rfl

theorem migrateSpelt_of_current (spell : Spelling) (h : IsOfSchema SaveStore.schema save) :
    migrateSpelt spell save SaveStore.schema =
      if save.isCopyable then .ok save else .error (.fault .tooDeep) := by
  rw [migrateSpelt_of_schema spell h]
  rfl

theorem migrateSpelt_of_first (spell : Spelling) (h : IsOfSchema 0 save) :
    migrateSpelt spell save SaveStore.schema =
      if save.isCopyable then toSecondSchema spell save else .error (.fault .tooDeep) := by
  rw [migrateSpelt_of_schema spell h, if_neg (by decide), ← climb_first h.number]
  rfl

/-- A save that is older than any is refused, once it is copied. -/
theorem migrateSpelt_of_older (spell : Spelling) (h : IsOfSchema n save)
    (hknown : ¬ SaveStore.schema < n) (hcurrent : n ≠ SaveStore.schema) (hfirst : n ≠ 0) :
    migrateSpelt spell save SaveStore.schema =
      if save.isCopyable then .error (.noMigration (versionOf save).describe)
      else .error (.fault .tooDeep) := by
  obtain ⟨steps, hsteps⟩ : ∃ steps, (SaveStore.schema - n).toNat = steps + 1 := by
    simp only [SaveStore.schema] at hcurrent hknown ⊢
    exact ⟨(-n).toNat, by omega⟩
  rw [migrateSpelt_of_schema spell h, if_neg hknown, hsteps, climb_of_ne_zero h.number hfirst]

theorem migrateSpelt_of_no_schema (spell : Spelling) (h : ∀ n, ¬ IsOfSchema n save) :
    ∃ why : MigrationFault, why.message?.isSome = true ∧
      migrateSpelt spell save SaveStore.schema = .error why := by
  cases hobject : save.isObject with
  | false =>
      refine ⟨.notAnObject, rfl, ?_⟩
      simp only [migrateSpelt, hobject, Bool.not_false, if_true]
      rfl
  | true =>
      cases hnumber : (versionOf save).countingValue? with
      | none =>
          refine ⟨.badVersion, rfl, ?_⟩
          simp only [migrateSpelt, hobject, hnumber, Bool.not_true, Bool.false_eq_true, if_false]
          rfl
      | some n => exact absurd ⟨hobject, hnumber⟩ (h n)

/-- A save of a known schema is copied first, and then goes the way of its schema. -/
theorem migrateSpelt_exit_of_known (spell : Spelling) (h : IsOfSchema n save)
    (hknown : ¬ SaveStore.schema < n) :
    MigrationExit spell save (migrateSpelt spell save SaveStore.schema) := by
  cases hshallow : save.isCopyable with
  | false =>
      rw [migrateSpelt_of_schema spell h, if_neg hknown, hshallow]
      exact .deep ⟨⟨n, Int.not_lt.mp hknown, h⟩, hshallow⟩
  | true =>
      by_cases hcurrent : n = SaveStore.schema
      · rw [hcurrent] at h
        rw [migrateSpelt_of_current spell h, if_pos hshallow]
        exact .current h hshallow
      · by_cases hfirst : n = 0
        · rw [hfirst] at h
          rw [migrateSpelt_of_first spell h, if_pos hshallow]
          exact .first h hshallow
        · rw [migrateSpelt_of_older spell h hknown hcurrent hfirst, if_pos hshallow]
          refine .refused rfl (fun hof => hcurrent (h.unique hof))
            (fun hof => hfirst (h.unique hof)) fun hstops => ?_
          rw [hstops.deep] at hshallow
          contradiction

/-- What is of no known schema is refused before it is copied. -/
theorem MigrationExit.refused_unknown {why : MigrationFault} (declared : why.message?.isSome = true)
    (hnot : ∀ n ≤ SaveStore.schema, ¬ IsOfSchema n save) :
    MigrationExit spell save (.error why) := by
  refine .refused declared (hnot _ (Int.le_refl _)) (hnot 0 (by decide)) ?_
  rintro ⟨⟨n, hn, hof⟩, -⟩
  exact hnot n hn hof

theorem migrateSpelt_exit (spell : Spelling) (save : Json) :
    MigrationExit spell save (migrateSpelt spell save SaveStore.schema) := by
  by_cases hschema : ∃ n, IsOfSchema n save
  · obtain ⟨n, h⟩ := hschema
    by_cases hnew : SaveStore.schema < n
    · rw [migrateSpelt_of_schema spell h, if_pos hnew]
      refine .refused_unknown rfl fun m hm hof => ?_
      rw [hof.unique h] at hm
      omega
    · exact migrateSpelt_exit_of_known spell h hnew
  · have hnot : ∀ n, ¬ IsOfSchema n save := not_exists.mp hschema
    obtain ⟨why, declared, hwhy⟩ := migrateSpelt_of_no_schema spell hnot
    rw [hwhy]
    exact .refused_unknown declared fun n _ => hnot n

/-! ## What stops a migration -/

theorem stopsFlat_iff (spell : Spelling) :
    StopsFlat save ↔ (versionOf save).countingValue? = some 0 ∧
      ∃ f, toSecondSchema spell save = .error (.fault f) := by
  rw [toSecondSchema_stops_iff, flatSheet_stops_iff]
  constructor
  · rintro ⟨hfirst, hflat, hcharacter, hblock⟩
    exact ⟨hfirst, hflat, hcharacter, hblock⟩
  · rintro ⟨hfirst, hflat, hcharacter, hblock⟩
    exact ⟨hfirst, hflat, hcharacter, hblock⟩

/-- What has a member that is an object is one itself. -/
theorem isObject_of_memberOrNull {key : String} (h : (save.memberOrNull key).isObject = true) :
    save.isObject = true := by
  cases save <;> first | rfl | contradiction

theorem StopsFlat.isOfSchema (h : StopsFlat save) : IsOfSchema 0 save :=
  ⟨isObject_of_memberOrNull h.character, h.first⟩

theorem stops_iff_of_isCopyable (hshallow : save.isCopyable = true) :
    Stops save ↔ StopsFlat save := by
  constructor
  · rintro (⟨-, hdeep⟩ | hflat)
    · rw [hshallow] at hdeep
      contradiction
    · exact hflat
  · exact .flat

theorem stops_iff_of_current (h : IsOfSchema SaveStore.schema save) :
    Stops save ↔ save.isCopyable = false := by
  constructor
  · rintro (⟨-, hdeep⟩ | hflat)
    · exact hdeep
    · exact absurd (hflat.isOfSchema.unique h) (by decide)
  · exact fun hdeep => .deep ⟨⟨_, Int.le_refl _, h⟩, hdeep⟩

theorem migrateSpelt_stops_iff (spell : Spelling) :
    (∃ f, migrateSpelt spell save SaveStore.schema = .error (.fault f)) ↔ Stops save := by
  have hexit := migrateSpelt_exit spell save
  generalize migrateSpelt spell save SaveStore.schema = answer at hexit
  cases hexit with
  | current current shallow => simp [stops_iff_of_current current, shallow]
  | first first shallow =>
      rw [stops_iff_of_isCopyable shallow, stopsFlat_iff spell]
      simp [first.number]
  | deep stops => exact iff_of_true ⟨_, rfl⟩ (.deep stops)
  | refused declared not_current not_first not_deep =>
      refine iff_of_false ?_ ?_
      · rintro ⟨f, hf⟩
        obtain rfl := Except.error.inj hf
        contradiction
      · rintro (hdeep | hflat)
        · exact not_deep hdeep
        · exact not_first hflat.isOfSchema

/-! ## What a migration leaves -/

theorem isOfSchema_of_toSecondSchema {current : Json}
    (h : toSecondSchema spell save = .ok current) : IsOfSchema SaveStore.schema current := by
  obtain ⟨state, -, hstate⟩ := bind_eq_ok_iff.mp h
  obtain rfl := Except.ok.inj hstate
  exact ⟨rfl, rfl⟩

theorem migrateSpelt_eq_ok {current : Json}
    (h : migrateSpelt spell save SaveStore.schema = .ok current) :
    (IsOfSchema SaveStore.schema save ∧ current = save) ∨
      (IsOfSchema 0 save ∧ toSecondSchema spell save = .ok current) := by
  have hexit := migrateSpelt_exit spell save
  rw [h] at hexit
  generalize hanswer : (.ok current : Except MigrationFault Json) = answer at hexit
  cases hexit with
  | current unchanged => exact .inl ⟨unchanged, Except.ok.inj hanswer⟩
  | first first => exact .inr ⟨first, rfl⟩
  | deep => cases hanswer
  | refused => cases hanswer

theorem isOfSchema_of_migrateSpelt {current : Json}
    (h : migrateSpelt spell save SaveStore.schema = .ok current) :
    IsOfSchema SaveStore.schema current := by
  obtain ⟨unchanged, rfl⟩ | ⟨-, hstep⟩ := migrateSpelt_eq_ok h
  · exact unchanged
  · exact isOfSchema_of_toSecondSchema hstep

/-- There is a player in a save, or the character of a flat one. -/
def HasSheet (save : Json) : Prop :=
  (save.memberOrNull "state").isObject = true ∨ (save.memberOrNull "character").isObject = true

theorem exists_toSecondSchema_iff (first : IsOfSchema 0 save) :
    (∃ current, toSecondSchema spell save = .ok current) ↔ HasSheet save ∧ ¬ StopsFlat save := by
  have hstops : StopsFlat save ↔ (save.memberOrNull "state").isObject = false ∧
      (save.memberOrNull "character").isObject = true ∧ IsBlocked save := by
    rw [stopsFlat_iff spell, toSecondSchema_stops_iff, flatSheet_stops_iff]
    simp [first.number]
  rw [hstops, HasSheet, toSecondSchema, stateOf]
  cases (save.memberOrNull "state").isObject with
  | true => simp [bind, Except.bind, pure, Except.pure]
  | false =>
      have hsheet := exists_flatSheet_iff spell save
      cases hflat : flatSheet spell save with
      | error f => simp_all [bind, Except.bind]
      | ok sheet => simp_all [bind, Except.bind, pure, Except.pure]

theorem exists_migrateSpelt_iff (spell : Spelling) :
    (∃ current, migrateSpelt spell save SaveStore.schema = .ok current) ↔
      (IsOfSchema SaveStore.schema save ∨ IsOfSchema 0 save ∧ HasSheet save) ∧ ¬ Stops save := by
  have hexit := migrateSpelt_exit spell save
  generalize migrateSpelt spell save SaveStore.schema = answer at hexit
  cases hexit with
  | current current shallow => simp [current, stops_iff_of_current current, shallow]
  | first first shallow =>
      have hnot : ¬ IsOfSchema SaveStore.schema save := fun h => absurd (first.unique h) (by decide)
      rw [exists_toSecondSchema_iff first, stops_iff_of_isCopyable shallow]
      simp [hnot, first]
  | deep stops => simp [Stops.deep stops]
  | refused declared not_current not_first => simp [not_current, not_first]

/-! ## How deep a migrated save is -/

end Migration

/-- Every value that is written is one of the table. -/
def Spelling.KeepsValues (spell : Spelling) : Prop := ∀ t, ∀ m ∈ spell t, ∃ e ∈ t, e.2 = m.2

theorem PairTable.keepsValues_written : Spelling.KeepsValues written := by
  intro t
  refine Table.forall_mem_update (P := fun v => ∃ e ∈ t, e.2 = v) nofun fun m hm => ?_
  obtain ⟨e, he, rfl⟩ := List.mem_map.mp hm
  exact ⟨e, he, rfl⟩

namespace Migration

variable {spell : Spelling} {save sheet state current : Json} {n : Nat}

theorem flatSheet_eq_ok (h : flatSheet spell save = .ok sheet) :
    ∃ tags vars log,
      (givenOr (save.memberOrNull "character") "metadata" (.arr [])).itemsOf = .ok tags ∧
      PairTable.ofJson (givenOr save "questVars" (.obj [])) = .ok vars ∧
      (givenOr save "questLog" (.arr [])).itemsOf = .ok log ∧
      sheet = .obj
        [("tags", .arr tags), ("variables", .obj (spell vars)), ("log", .arr log),
          ("stats", .obj (flatStats (save.memberOrNull "character"))),
          ("xp", ((save.memberOrNull "character").member? "xp").getD (.int 0)),
          ("steps_completed",
            ((save.memberOrNull "character").member? "stepsCompleted").getD (.int 0)),
          ("current_step_id", save.memberOrNull "currentStepId")] := by
  have hlift : ∀ {α : Type} {x : Except Fault α} {a : α}, lift x = .ok a → x = .ok a := by
    intro α x a hx
    cases x with
    | error f => cases hx
    | ok b => exact congrArg _ (Except.ok.inj hx)
  cases hcharacter : (save.memberOrNull "character").isObject with
  | false =>
      rw [flatSheet_of_no_character hcharacter] at h
      cases h
  | true =>
      simp only [flatSheet, hcharacter, Bool.not_true, Bool.false_eq_true, if_false] at h
      obtain ⟨tags, htags, h⟩ := bind_eq_ok_iff.mp h
      obtain ⟨vars, hvars, h⟩ := bind_eq_ok_iff.mp h
      obtain ⟨log, hlog, h⟩ := bind_eq_ok_iff.mp h
      exact ⟨tags, vars, log, hlift htags, hlift hvars, hlift hlog, (Except.ok.inj h).symm⟩

theorem levels_givenOr_le {key : String} {standIn : Json} (h : save.levels ≤ n + 1)
    (hstandIn : standIn.levels ≤ n) : (givenOr save key standIn).levels ≤ n := by
  rw [givenOr, Json.given?]
  split
  · exact Json.levels_memberOrNull_le h key
  · exact hstandIn

theorem levels_flatSheet_le (hspell : spell.KeepsValues) (h : save.levels ≤ n + 2)
    (hsheet : flatSheet spell save = .ok sheet) : sheet.levels ≤ n + 2 := by
  obtain ⟨tags, vars, log, htags, hvars, hlog, rfl⟩ := flatSheet_eq_ok hsheet
  have hcharacter : (save.memberOrNull "character").levels ≤ n + 1 :=
    Json.levels_memberOrNull_le h "character"
  have hempty : ∀ v ∈ [Json.arr [], .obj []], v.levels ≤ n + 1 := by
    simp [Json.levels, Json.levelsOfList, Json.levelsOfMembers]
  -- blocks that are gone through are taken apart, and what they hold is one level less deep
  have htagLevels : ∀ tag ∈ tags, tag.levels ≤ n :=
    Json.levels_le_of_mem_itemsOf
      (levels_givenOr_le (Nat.le_succ_of_le hcharacter) (hempty _ (by simp))) htags
  have hlogLevels : ∀ line ∈ log, line.levels ≤ n :=
    Json.levels_le_of_mem_itemsOf (levels_givenOr_le h (hempty _ (by simp))) hlog
  have hvarLevels : ∀ m ∈ spell vars, m.2.levels ≤ n := by
    intro m hm
    obtain ⟨e, he, heq⟩ := hspell vars m hm
    rw [← heq]
    exact PairTable.levels_ofJson_le (levels_givenOr_le h (hempty _ (by simp))) hvars e he
  have hstatLevels : ∀ m ∈ flatStats (save.memberOrNull "character"), m.2.levels ≤ n := by
    intro m hm
    obtain ⟨stat, -, rfl⟩ := List.mem_map.mp hm
    exact Json.levels_getD_member?_le hcharacter _ (Nat.zero_le n)
  have hcounter : ∀ key, (((save.memberOrNull "character").member? key).getD (.int 0)).levels ≤
      n + 1 := fun key =>
    Json.levels_getD_member?_le (Nat.le_succ_of_le hcharacter) key (Nat.zero_le _)
  have hstep : (save.memberOrNull "currentStepId").levels ≤ n + 1 :=
    Json.levels_memberOrNull_le h "currentStepId"
  rw [Json.levels_obj_le_iff]
  simp only [List.forall_mem_cons, List.not_mem_nil, false_imp_iff, implies_true, and_true,
    Json.levels_arr_le_iff, Json.levels_obj_le_iff]
  exact ⟨htagLevels, hvarLevels, hlogLevels, hstatLevels, hcounter _, hcounter _, hstep⟩

theorem levels_metadataOf_le (h : save.levels ≤ n + 2) (hstate : state.levels ≤ n + 3) :
    (metadataOf save state).levels ≤ n + 3 := by
  have hmetadata : (save.memberOrNull "metadata").levels ≤ n + 2 + 1 :=
    Nat.le_trans (Json.levels_memberOrNull_le h _) (by omega)
  have hplayer : (state.memberOrNull "player").levels ≤ n + 2 :=
    Json.levels_memberOrNull_le hstate "player"
  have hvars : ((state.memberOrNull "player").memberOrNull "variables").levels ≤ n + 1 :=
    Json.levels_memberOrNull_le hplayer "variables"
  have hown : ∀ key, (save.memberOrNull key).levels ≤ n + 2 := fun key =>
    Nat.le_trans (Json.levels_memberOrNull_le h key) (by omega)
  have hdescribed : ∀ {source : Json} {key sourceKey : String}, source.levels ≤ n + 2 →
      (describedOr (save.memberOrNull "metadata") source key sourceKey).levels ≤ n + 2 :=
    fun hsource => Json.levels_getD_member?_le hmetadata _
      (Nat.le_trans (Json.levels_memberOrNull_le hsource _) (by omega))
  rw [metadataOf, Json.levels_obj_le_iff]
  simp only [List.forall_mem_cons, List.not_mem_nil, false_imp_iff, implies_true, and_true]
  exact ⟨Nat.zero_le _, Nat.zero_le _, levels_givenOr_le hmetadata (hown _),
    levels_givenOr_le hmetadata (hown _), hdescribed (Nat.le_succ_of_le hvars), hdescribed hplayer⟩

theorem levels_toSecondSchema_le (hspell : spell.KeepsValues) (h : save.levels ≤ n + 2)
    (hcurrent : toSecondSchema spell save = .ok current) : current.levels ≤ n + 4 := by
  obtain ⟨state, hstate, hcurrent⟩ := bind_eq_ok_iff.mp hcurrent
  obtain rfl := Except.ok.inj hcurrent
  have hlevels : state.levels ≤ n + 3 := by
    simp only [stateOf] at hstate
    split at hstate
    · obtain rfl := Except.ok.inj hstate
      exact Nat.le_trans (Json.levels_memberOrNull_le h _) (by omega)
    · obtain ⟨sheet, hsheet, hstate⟩ := bind_eq_ok_iff.mp hstate
      obtain rfl := Except.ok.inj hstate
      simpa [Json.levels_obj_le_iff] using levels_flatSheet_le hspell h hsheet
  rw [Json.levels_obj_le_iff]
  simp only [List.forall_mem_cons, List.not_mem_nil, false_imp_iff, implies_true, and_true]
  exact ⟨Nat.zero_le _, levels_metadataOf_le h hlevels, hlevels⟩

/-- A migration adds two levels at most. -/
theorem levels_of_migrateSpelt (hspell : spell.KeepsValues)
    (h : migrateSpelt spell save SaveStore.schema = .ok current) :
    current.levels ≤ save.levels + 2 := by
  obtain ⟨-, rfl⟩ | ⟨first, hstep⟩ := migrateSpelt_eq_ok h
  · exact Nat.le_add_right _ 2
  · have hsheet : HasSheet save := ((exists_toSecondSchema_iff first).mp ⟨_, hstep⟩).1
    have htwo : 2 ≤ save.levels := hsheet.elim Json.two_le_levels Json.two_le_levels
    obtain ⟨n, hn⟩ := Nat.exists_eq_add_of_le' htwo
    rw [hn]
    exact levels_toSecondSchema_le hspell (Nat.le_of_eq hn) hstep

/-- Bringing a save to the current schema stops exactly if it is too deep to be copied, or a flat
one with a block that nothing can go through.  Unless it stops, it gives a save exactly for a
current one and for one of the first schema with a sheet; every other save is refused.  What it
gives is of the current schema and two levels deeper at most, and bringing that to the current
schema changes nothing, however names are spelt, or stops because it has become too deep. -/
theorem migration_settles (spell : Spelling) (save : Json) :
    ((∃ f, migrateSpelt spell save SaveStore.schema = .error (.fault f)) ↔ Stops save) ∧
    ((∃ current, migrateSpelt spell save SaveStore.schema = .ok current) ↔
      (IsOfSchema SaveStore.schema save ∨ IsOfSchema 0 save ∧ HasSheet save) ∧ ¬ Stops save) ∧
    ∀ current, migrateSpelt spell save SaveStore.schema = .ok current →
      IsOfSchema SaveStore.schema current ∧
        (spell.KeepsValues → current.levels ≤ save.levels + 2) ∧
        ∀ other, migrateSpelt other current SaveStore.schema =
          if current.isCopyable then .ok current else .error (.fault .tooDeep) := by
  refine ⟨migrateSpelt_stops_iff spell, exists_migrateSpelt_iff spell, ?_⟩
  intro current h
  have hcurrent := isOfSchema_of_migrateSpelt h
  exact ⟨hcurrent, fun hspell => levels_of_migrateSpelt hspell h,
    fun other => migrateSpelt_of_current other hcurrent⟩

/-- A flat save with a quest among its tags is brought to the current schema, once for all. -/
theorem migration_settles_for_quest :
    let save : Json := .obj [("character", .obj [("metadata", .arr [.str "quest"])])]
    ∃ current, migrate save SaveStore.schema = .ok current ∧
      IsOfSchema SaveStore.schema current ∧ current.levels ≤ save.levels + 2 ∧
      migrate current SaveStore.schema = .ok current := by
  intro save
  obtain ⟨-, -, hsettled⟩ := migration_settles PairTable.written save
  obtain ⟨current, hcurrent⟩ : ∃ current, migrate save SaveStore.schema = .ok current :=
    ⟨_, rfl⟩
  obtain ⟨hschema, hlevels, hagain⟩ := hsettled current hcurrent
  have hdeep : current.levels ≤ save.levels + 2 := hlevels PairTable.keepsValues_written
  have hshallow : current.isCopyable = true := by
    have hsave : save.levels = 3 := by decide +kernel
    rw [Json.isCopyable, decide_eq_true_eq, Json.copyLimit]
    omega
  have hsame := hagain PairTable.written
  rw [if_pos hshallow] at hsame
  exact ⟨current, hcurrent, hschema, hdeep, hsame⟩

/-- A number in place of the tags of a flat save stops the migration. -/
theorem migration_can_stop :
    let save : Json := .obj [("character", .obj [("metadata", .int 5)])]
    migrate save SaveStore.schema = .error (.fault .wrongKind) ∧
      MigrationFault.message? (.fault .wrongKind) = none := by
  decide +kernel

end Migration

end Questline
