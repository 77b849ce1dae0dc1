import Questline.Player
import Questline.Proofs.Table

/-!
# Written sheets

A player can be read back from the character sheet.  What comes back is the
player as repaired, without a pending level-up, which no sheet holds.
-/

namespace Questline

theorem Stat.ofName?_name (stat : Stat) : Stat.ofName? stat.name = some stat := by
  cases stat <;> decide

theorem Stats.get?_toTable (s : Stats) (stat : Stat) :
    Table.get? stat.name s.toTable = some (.int (s.get stat)) := by
  cases stat <;> rfl

theorem Stats.ofFunction_get (s : Stats) : Stats.ofFunction s.get = s := rfl

namespace LooseSheet

theorem textsIn_map_str (xs : List String) : textsIn (xs.map .str) = xs := by
  rw [textsIn, List.filterMap_map]
  exact List.filterMap_some

theorem variablesIn_mapValues_str (vars : Table String) :
    variablesIn (Table.mapValues .str vars) = vars := by
  rw [variablesIn, Table.mapValues, List.filterMap_map]
  exact List.filterMap_some

theorem counterIn_int (n : Int) : (counterIn (.int n) : Int) = max n 0 :=
  Int.toNat_eq_max n

end LooseSheet

namespace Player

open LooseSheet

/-- Members of the stat block that are no stats do not stand for a stat. -/
theorem get?_otherStats (p : Player) (stat : Stat) :
    Table.get? stat.name p.otherStats = none := by
  refine Table.get?_eq_none_iff.mpr ?_
  intro m hm hname
  have hnone : Stat.ofName? m.1 = none := p.otherStats_ofName? m hm
  rw [hname, stat.ofName?_name] at hnone
  contradiction

theorem statsIn_statsJson (p : Player) : statsIn p.statsJson = p.stats := by
  have hget : ∀ stat, Table.get? (Stat.name stat) p.statsJson = some (.int (p.stats.get stat)) := by
    intro stat
    rw [statsJson, Table.get?_append, p.get?_otherStats, p.stats.get?_toTable]
    rfl
  simp only [statsIn, hget]
  exact p.stats.ofFunction_get

theorem otherStatsIn_statsJson (p : Player) : otherStatsIn p.statsJson = p.otherStats := by
  have hothers : p.otherStats.filter (fun m => (Stat.ofName? m.1).isNone) = p.otherStats := by
    rw [List.filter_eq_self]
    intro m hm
    rw [p.otherStats_ofName? m hm]
    rfl
  have hstats : p.stats.toTable.filter (fun m => (Stat.ofName? m.1).isNone) = [] := by
    rw [List.filter_eq_nil_iff]
    intro m hm
    obtain ⟨stat, -, rfl⟩ := List.mem_map.mp hm
    simp [stat.ofName?_name]
  rw [statsJson, otherStatsIn, List.filter_append, hothers, hstats, List.append_nil]

theorem asText?_optionalText (s : Option String) : (optionalText s).asText? = s := by
  cases s <;> rfl

/-- What is read back from a sheet is the player as repaired. -/
theorem ofJson_toJson (p : Player) :
    ofJson p.toJson = { p.repaired with leveledUp := false } := by
  ext1
  case tags => exact textsIn_map_str p.tags
  case vars => exact variablesIn_mapValues_str p.vars
  case log => exact textsIn_map_str p.log
  case stats => exact p.statsIn_statsJson
  case otherStats => exact p.otherStatsIn_statsJson
  case xp => exact counterIn_int p.xp
  case stepsCompleted => rfl
  case currentStepId => exact asText?_optionalText p.currentStepId
  case leveledUp => rfl

/-- A repaired player is written as before once read back. -/
theorem toJson_ofJson_toJson {p : Player} (h : 0 ≤ p.xp) :
    (ofJson p.toJson).toJson = p.toJson := by
  rw [ofJson_toJson]
  simp [toJson, repaired, statsJson, Int.max_eq_left h]

end Player

end Questline
