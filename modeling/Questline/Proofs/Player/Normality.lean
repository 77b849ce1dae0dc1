import Questline.Proofs.Attempt
import Questline.Proofs.Player.Sheet

/-!
# Normal sheets

A sheet is normal when each of its fields holds what a player has there.  Every
sheet that is read from written data becomes normal by repair, and repair takes
nothing from a sheet that is normal: it only moves the stats to the end of
their block.
-/

namespace Questline

theorem Stat.name_of_ofName? {name : String} {stat : Stat} (h : Stat.ofName? name = some stat) :
    stat.name = name := by
  simpa using List.find?_some h

theorem Stats.get?_toTable_eq_none (s : Stats) {name : String} (h : Stat.ofName? name = none) :
    Table.get? name s.toTable = none := by
  refine Table.get?_eq_none_iff.mpr ?_
  intro m hm hname
  obtain ⟨stat, -, rfl⟩ := List.mem_map.mp hm
  rw [← hname, stat.ofName?_name] at h
  contradiction

namespace LooseSheet

structure IsNormal (s : LooseSheet) : Prop where
  tags : ∃ xs : List String, s.tags = .arr (xs.map .str)
  vars : ∃ ms : Table String, s.vars = Player.variablesJson ms
  log : ∃ xs : List String, s.log = .arr (xs.map .str)
  /-- The stats are integers; what else the block holds is not looked at. -/
  stats : ∃ ms, s.stats = .obj ms ∧ ∀ stat : Stat, ∃ n, Table.get? stat.name ms = some (.int n)
  xp : ∃ n : Nat, s.xp = .int n
  stepsCompleted : ∃ n : Nat, s.stepsCompleted = .int n
  currentStepId : ∃ id : Option String, s.currentStepId = Player.optionalText id

/-- Two sheets hold the same in every field, the order within the stat block aside. -/
structure Same (s t : LooseSheet) : Prop where
  tags : s.tags = t.tags
  vars : s.vars = t.vars
  log : s.log = t.log
  stats : ∀ name, s.stats.member? name = t.stats.member? name
  xp : s.xp = t.xp
  stepsCompleted : s.stepsCompleted = t.stepsCompleted
  currentStepId : s.currentStepId = t.currentStepId

/-- The sheet as written data. -/
def toJson (s : LooseSheet) : Json :=
  .obj
    [("tags", s.tags), ("variables", s.vars), ("log", s.log), ("stats", s.stats), ("xp", s.xp),
      ("steps_completed", s.stepsCompleted), ("current_step_id", s.currentStepId)]

/-- The sheet that written data is taken for, before its repair. -/
def ofJson (v : Json) : LooseSheet where
  tags := .arr (((v.member? "tags").bind Json.asList?).getD [])
  vars := .obj (((v.member? "variables").bind Json.asObject?).getD [])
  log := .arr (((v.member? "log").bind Json.asList?).getD [])
  stats := .obj (((v.member? "stats").bind Json.asObject?).getD [])
  xp := (v.member? "xp").getD (.int 0)
  stepsCompleted := (v.member? "steps_completed").getD (.int 0)
  currentStepId := v.memberOrNull "current_step_id"

/-- The sheet of a new character: the starting stats, with whatever was chosen in their place. -/
def starting (config : Config) (chosen : Json) : LooseSheet where
  stats := .obj (Stat.all.map fun stat =>
    (stat.name, (chosen.member? stat.name).getD (.int (config.startingStats.get stat))))

variable {s : LooseSheet} {p : Player}

theorem repair_of_tags {xs : List Json} (h : s.tags = .arr xs) :
    s.repair = .ok (s.repairWith xs) := by
  unfold repair
  rw [h]
  cases xs <;> rfl

theorem xp_nonneg_of_repair (h : s.repair = .ok p) : 0 ≤ p.xp := by
  unfold repair at h
  split at h
  all_goals
    obtain ⟨tags, -, h⟩ := bind_eq_ok_iff.mp h
    obtain rfl := Except.ok.inj h
    exact Int.natCast_nonneg _

/-- What a player holds is normal as soon as the experience is not negative. -/
theorem isNormal_toLoose (h : 0 ≤ p.xp) : p.toLoose.IsNormal where
  tags := ⟨p.tags, rfl⟩
  vars := ⟨p.vars, rfl⟩
  log := ⟨p.log, rfl⟩
  stats := by
    refine ⟨p.statsJson, rfl, ?_⟩
    intro stat
    refine ⟨p.stats.get stat, ?_⟩
    rw [Player.statsJson, Table.get?_append, p.get?_otherStats, p.stats.get?_toTable]
    rfl
  xp := ⟨p.xp.toNat, congrArg Json.int (Int.toNat_of_nonneg h).symm⟩
  stepsCompleted := ⟨p.stepsCompleted, rfl⟩
  currentStepId := ⟨p.currentStepId, rfl⟩

theorem isNormal_toLoose_iff : p.toLoose.IsNormal ↔ 0 ≤ p.xp := by
  refine ⟨?_, isNormal_toLoose⟩
  intro h
  obtain ⟨n, hn⟩ := h.xp
  rw [Json.int.inj hn]
  exact Int.natCast_nonneg n

/-! ## What is read -/

theorem membersIn_memberOrNull (v : Json) (key : String) :
    membersIn (v.memberOrNull key) = ((v.member? key).bind Json.asObject?).getD [] := by
  unfold Json.memberOrNull
  cases v.member? key <;> rfl

/-- Reading never fails: what written data is taken for can be repaired, and the outcome is the
player it is read as. -/
theorem repair_ofJson (v : Json) : (ofJson v).repair = .ok (.ofJson v) := by
  rw [repair_of_tags rfl]
  refine congrArg Except.ok ?_
  have hlog : ((v.memberOrNull "log").asList?).getD [] =
      ((v.member? "log").bind Json.asList?).getD [] := by
    unfold Json.memberOrNull
    cases v.member? "log" <;> rfl
  ext1
  case tags => rfl
  case vars => exact congrArg variablesIn (membersIn_memberOrNull v "variables").symm
  case log => exact congrArg textsIn hlog.symm
  case stats => exact congrArg statsIn (membersIn_memberOrNull v "stats").symm
  case otherStats => exact congrArg otherStatsIn (membersIn_memberOrNull v "stats").symm
  case xp => rfl
  case stepsCompleted => rfl
  case currentStepId => rfl
  case leveledUp => rfl

/-- A new character is a repaired sheet too, whatever was chosen for it. -/
theorem repair_starting (config : Config) (chosen : Json) :
    (starting config chosen).repair = .ok (.new config none (Player.chosenStats chosen)) := by
  have hread : ∀ stat : Stat,
      ((Table.get? stat.name (membersIn (starting config chosen).stats)).bind Json.asInt?).getD 0 =
        (Player.chosenStats chosen stat).getD (config.startingStats.get stat) := by
    intro stat
    have hget : Table.get? stat.name (membersIn (starting config chosen).stats) =
        some ((chosen.member? stat.name).getD (.int (config.startingStats.get stat))) := by
      cases stat <;> rfl
    rw [hget, Player.chosenStats]
    cases chosen.member? stat.name <;> rfl
  refine congrArg Except.ok ?_
  ext1
  case stats => exact congrArg Stats.ofFunction (funext hread)
  all_goals rfl

/-! ## What is normal -/

/-- A normal sheet is taken for itself. -/
theorem IsNormal.ofJson_toJson (h : s.IsNormal) : ofJson s.toJson = s := by
  obtain ⟨⟨tags, htags⟩, ⟨vars, hvars⟩, ⟨log, hlog⟩, ⟨stats, hstats, -⟩, -, -, -⟩ := h
  cases s
  simp only at htags hvars hlog hstats
  subst htags hvars hlog hstats
  rfl

theorem get?_statsJson_repairWith {ms : Table Json} (hstats : s.stats = .obj ms)
    (hints : ∀ stat : Stat, ∃ n, Table.get? stat.name ms = some (.int n)) (tags : List Json)
    (name : String) :
    Table.get? name (s.repairWith tags).statsJson = Table.get? name ms := by
  have hrepaired : (s.repairWith tags).statsJson = otherStatsIn ms ++ (statsIn ms).toTable := by
    simp [Player.statsJson, repairWith, membersIn, hstats, Json.asObject?]
  rw [hrepaired, Table.get?_append, otherStatsIn,
    Table.get?_filter fun name => (Stat.ofName? name).isNone]
  cases hname : Stat.ofName? name with
  | none => simp [Stats.get?_toTable_eq_none _ hname]
  | some stat =>
      obtain rfl := Stat.name_of_ofName? hname
      obtain ⟨n, hn⟩ := hints stat
      rw [Stats.get?_toTable, hn]
      cases stat <;> simp [statsIn, Stats.ofFunction, Stats.get, hn, Json.asInt?]

/-- Repair takes nothing from a normal sheet. -/
theorem IsNormal.exists_repair (h : s.IsNormal) :
    ∃ p, s.repair = .ok p ∧ p.toLoose.Same s := by
  obtain ⟨⟨tags, htags⟩, ⟨vars, hvars⟩, ⟨log, hlog⟩, ⟨stats, hstats, hints⟩, ⟨xp, hxp⟩,
    ⟨steps, hsteps⟩, ⟨id, hid⟩⟩ := h
  refine ⟨s.repairWith (tags.map .str), repair_of_tags htags, ?_⟩
  refine ⟨?_, ?_, ?_, ?_, ?_, ?_, ?_⟩
  · simp only [Player.toLoose, repairWith, textsIn_map_str, htags]
  · have hmembers : membersIn (Player.variablesJson vars) = Table.mapValues .str vars := rfl
    simp only [Player.toLoose, repairWith, hvars, hmembers, variablesIn_mapValues_str]
  · simp only [Player.toLoose, repairWith, hlog, Json.asList?, Option.getD_some, textsIn_map_str]
  · intro name
    rw [hstats]
    exact get?_statsJson_repairWith hstats hints _ name
  · simp only [Player.toLoose, repairWith, hxp, counterIn, Json.asInt?, Option.getD_some,
      Int.toNat_natCast]
  · simp only [Player.toLoose, repairWith, hsteps, counterIn, Json.asInt?, Option.getD_some,
      Int.toNat_natCast]
  · simp only [Player.toLoose, repairWith, hid, Player.asText?_optionalText]

end LooseSheet

namespace Player

open LooseSheet

/-- Repairing what a player holds, and reading back what was written of it, come to the same. -/
theorem repair_toLoose (p : Player) :
    p.toLoose.repair = .ok { p.repaired with leveledUp := false } := by
  rw [← p.ofJson_toJson, ← LooseSheet.repair_ofJson]
  rfl

theorem repaired_eq_self {p : Player} (h : 0 ≤ p.xp) : p.repaired = p := by
  rw [repaired, Int.max_eq_left h]

end Player

end Questline
