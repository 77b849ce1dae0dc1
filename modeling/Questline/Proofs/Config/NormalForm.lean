import Questline.Player
import Questline.Proofs.Config.Ranges
import Questline.Proofs.Player.Sheet

/-!
# Normal configurations

Reading a configuration makes it normal: every number is within its range, the
marks of quests are not empty, and there are values for stats only.  To bring a
normal configuration into its ranges changes nothing, and what was written of it
is read as the same configuration, whichever way its settings are read.
-/

namespace Questline

namespace Config

variable {c : Config} {v : Json}

/-- The settings that are integers, each with the least and the greatest value that it can have. -/
def ranges : Table (Int × Int) :=
  [("stat_increase_amount", 0, 100), ("preferred_tag_weight", 0, 1000),
    ("starting_points", 0, 1000), ("xp_per_level", 1, 1000), ("quest_xp", 0, 1000),
    ("max_log_entries", 1, 10000), ("tag_skill_bonus", 0, 100), ("die_sides", 2, 100)]

/-- An object whose members are integers with the names of stats. -/
def IsStatBlock (v : Json) (names : List String) : Prop :=
  ∃ ms, v = .obj ms ∧ Table.keys ms = names ∧
    ∀ m ∈ ms, (Stat.ofName? m.1).isSome = true ∧ ∃ n, m.2 = .int n

/-- A written configuration that is normal. -/
structure IsNormal (v : Json) : Prop where
  integers : ∀ name low high, (name, low, high) ∈ ranges →
    ∃ n, v.member? name = some (.int n) ∧ low ≤ n ∧ n ≤ high
  questMarks : ∀ name ∈ ["quest_tag", "quest_prefix"], ∃ s, v.member? name = some (.str s) ∧ s ≠ ""
  otherMarks : ∀ name ∈ ["internal_prefix", "patch_text_separator"],
    ∃ s, v.member? name = some (.str s)
  startingStats : ∃ stats, v.member? "starting_stats" = some stats ∧
    IsStatBlock stats (Stat.all.map Stat.name)
  statModifiers : ∃ tags, v.member? "stat_modifiers" = some (.obj tags) ∧
    ∀ m ∈ tags, ∃ names, IsStatBlock m.2 names ∧ names ≠ []

/-! ## Bringing into range -/

theorem clampInt_le {low high : Int} (h : low ≤ high) (n : Int) : clampInt low high n ≤ high := by
  unfold clampInt
  omega

theorem clampInt_clampInt (low high n : Int) :
    clampInt low high (clampInt low high n) = clampInt low high n := by
  unfold clampInt
  omega

theorem orElse_ne_empty {fallback : String} (h : fallback ≠ "") (s : String) :
    orElse s fallback ≠ "" := by
  unfold orElse
  split
  · exact h
  · next hs => simpa using hs

theorem orElse_of_ne_empty {s : String} (h : s ≠ "") (fallback : String) :
    orElse s fallback = s := by
  simp [orElse, h]

theorem clamp_clamp (c : Config) : c.clamp.clamp = c.clamp := by
  have htag : orElse (orElse c.questTag "quest") "quest" = orElse c.questTag "quest" :=
    orElse_of_ne_empty (orElse_ne_empty (by decide) _) _
  have hlead : orElse (orElse c.questLead "q:") "q:" = orElse c.questLead "q:" :=
    orElse_of_ne_empty (orElse_ne_empty (by decide) _) _
  simp only [clamp, clampInt_clampInt, htag, hlead, List.filter_filter, Bool.and_self]

theorem IsClamped.clamp_eq (h : c.IsClamped) : c.clamp = c := by
  obtain ⟨read, rfl⟩ := h
  exact read.clamp_clamp

theorem isStatBlock_toTable (s : Stats) :
    IsStatBlock (.obj s.toTable) (Stat.all.map Stat.name) := by
  refine ⟨_, rfl, rfl, ?_⟩
  intro m hm
  obtain ⟨stat, -, rfl⟩ := List.mem_map.mp hm
  exact ⟨by simp [stat.ofName?_name], _, rfl⟩

theorem isStatBlock_modifiersJson (mods : Modifiers) :
    IsStatBlock (modifiersJson mods) (mods.map fun p => p.1.name) := by
  refine ⟨_, rfl, by simp [Table.keys], ?_⟩
  intro m hm
  obtain ⟨p, -, rfl⟩ := List.mem_map.mp hm
  exact ⟨by simp [p.1.ofName?_name], _, rfl⟩

theorem IsClamped.isNormal (h : c.IsClamped) : IsNormal c.toJson := by
  obtain ⟨read, rfl⟩ := h
  constructor
  · intro name low high hrange
    simp only [ranges, List.mem_cons, Prod.mk.injEq, List.not_mem_nil, or_false] at hrange
    rcases hrange with ⟨rfl, rfl, rfl⟩ | ⟨rfl, rfl, rfl⟩ | ⟨rfl, rfl, rfl⟩ | ⟨rfl, rfl, rfl⟩ |
      ⟨rfl, rfl, rfl⟩ | ⟨rfl, rfl, rfl⟩ | ⟨rfl, rfl, rfl⟩ | ⟨rfl, rfl, rfl⟩
    all_goals exact ⟨_, rfl, le_clampInt _ _ _, clampInt_le (by decide) _⟩
  · intro name hname
    simp only [List.mem_cons, List.not_mem_nil, or_false] at hname
    rcases hname with rfl | rfl
    all_goals exact ⟨_, rfl, orElse_ne_empty (by decide) _⟩
  · intro name hname
    simp only [List.mem_cons, List.not_mem_nil, or_false] at hname
    rcases hname with rfl | rfl
    all_goals exact ⟨_, rfl⟩
  · exact ⟨_, rfl, isStatBlock_toTable _⟩
  · refine ⟨_, rfl, ?_⟩
    intro m hm
    obtain ⟨p, hp, rfl⟩ := List.mem_map.mp hm
    refine ⟨_, isStatBlock_modifiersJson p.2, ?_⟩
    have hmods : p.2 ≠ [] := by simpa [clamp] using (List.mem_filter.mp hp).2
    simpa using hmods

/-! ## Reading what was written -/

def settings (c : Config) : Table Json := (c.toJson.asObject?).getD []

theorem keys_settings (c : Config) : c.settings.keys = settingNames := rfl

theorem settingName_of_mem {name : String} (h : name ∈ settingNames) : settingName name = name := by
  revert name
  decide

theorem settingsOf_toJson (c : Config) : settingsOf c.toJson = c.settings := by
  have hnames : (c.settings.map fun p => (settingName p.1, p.2)) = c.settings := by
    refine (List.map_congr_left fun p hp => ?_).trans (List.map_id _)
    have hmem : p.1 ∈ settingNames := c.keys_settings ▸ List.mem_map_of_mem hp
    rw [settingName_of_mem hmem]
    rfl
  have hnodup : c.settings.keys.Nodup := by
    rw [keys_settings]
    decide
  rw [settingsOf]
  exact (congrArg Table.ofPairs hnames).trans (Table.ofPairs_eq_self hnodup)

theorem readStats_toTable (s : Stats) : readStats s.toTable = .ok s := by
  simp only [readStats, s.get?_toTable]
  rfl

theorem mapM_map_eq_ok {α β γ : Type} {f : β → Except Fault (Option γ)} {g : α → β} {k : α → γ}
    {xs : List α} (h : ∀ x ∈ xs, f (g x) = .ok (some (k x))) :
    (do return (← (xs.map g).mapM f).filterMap id : Except Fault (List γ)) = .ok (xs.map k) := by
  have hread : (xs.map g).mapM f = .ok (xs.map fun x => some (k x)) := by
    rw [mapM_map_congr h]
    exact List.mapM_pure
  rw [hread]
  simp [bind, Except.bind, pure, Except.pure, List.filterMap_map]

theorem readModifiers_modifiersJson (mods : Modifiers) :
    readModifiers (mods.map fun p => (p.1.name, .int p.2)) = .ok mods := by
  rw [readModifiers, mapM_map_eq_ok (k := id), List.map_id]
  intro p _
  simp only [p.1.ofName?_name]
  rfl

theorem readModifierTable_modifiersJson (t : Table Modifiers) :
    readModifierTable (t.map fun p => (p.1, modifiersJson p.2)) = .ok t := by
  rw [readModifierTable, mapM_map_eq_ok (k := id), List.map_id]
  intro p _
  have hobject : (modifiersJson p.2).asObject? =
      some (p.2.map fun m => (m.1.name, .int m.2)) := rfl
  simp only [hobject, readModifiers_modifiersJson]
  rfl

/-- A way to read that takes an integer where there is one, and a text where there is one. -/
structure Reading.IsFaithful (how : Reading) : Prop where
  integer : ∀ default n, how.integer default (some (.int n)) = .ok n
  text : ∀ default s, how.text default (some (.str s)) = s

theorem isFaithful_forgiving : forgiving.IsFaithful := ⟨fun _ _ => rfl, fun _ _ => rfl⟩

theorem isFaithful_insisting : insisting.IsFaithful := ⟨fun _ _ => rfl, fun _ _ => rfl⟩

theorem Reading.IsFaithful.readSettings_settings {how : Reading} (h : how.IsFaithful) (c : Config) :
    readSettings how c.startingStats.toTable
      (c.statModifiers.map fun p => (p.1, modifiersJson p.2)) c.settings = .ok c.clamp := by
  have hinteger : ∀ name n, Table.get? name c.settings = some (.int n) → ∀ default,
      how.integer default (Table.get? name c.settings) = .ok n := by
    intro name n hget default
    rw [hget, h.integer]
  have htext : ∀ name s, Table.get? name c.settings = some (.str s) → ∀ default,
      how.text default (Table.get? name c.settings) = s := by
    intro name s hget default
    rw [hget, h.text]
  simp only [readSettings, readStats_toTable, readModifierTable_modifiersJson,
    hinteger "stat_increase_amount" c.statIncreaseAmount rfl,
    hinteger "preferred_tag_weight" c.preferredTagWeight rfl,
    hinteger "starting_points" c.startingPoints rfl, hinteger "xp_per_level" c.xpPerLevel rfl,
    hinteger "quest_xp" c.questXp rfl, hinteger "max_log_entries" c.maxLogEntries rfl,
    hinteger "tag_skill_bonus" c.tagSkillBonus rfl, hinteger "die_sides" c.dieSides rfl,
    htext "quest_tag" c.questTag rfl, htext "quest_prefix" c.questLead rfl,
    htext "internal_prefix" c.internalLead rfl,
    htext "patch_text_separator" c.patchTextSeparator rfl]
  rfl

theorem ofJson_toJson (c : Config) : ofJson c.toJson = .ok c.clamp := by
  have hread : ofJson c.toJson = readSettings forgiving
      (objectOr ({} : Config).startingStats.toTable
        (Table.get? "starting_stats" (settingsOf c.toJson)))
      (objectOr [] (Table.get? "stat_modifiers" (settingsOf c.toJson)))
      (settingsOf c.toJson) := rfl
  rw [hread, settingsOf_toJson]
  exact isFaithful_forgiving.readSettings_settings c

theorem ofFields_settings (c : Config) : ofFields c.settings = .ok c.clamp := by
  have hknown : (c.settings.any fun p => !settingNames.contains p.1) = false := by
    rw [List.any_eq_false]
    intro p hp
    have hmem : p.1 ∈ settingNames := c.keys_settings ▸ List.mem_map_of_mem hp
    simp [hmem]
  have hstats : Table.get? "starting_stats" c.settings = some (.obj c.startingStats.toTable) := rfl
  have hmodifiers : Table.get? "stat_modifiers" c.settings =
      some (.obj (c.statModifiers.map fun p => (p.1, modifiersJson p.2))) := rfl
  rw [← isFaithful_insisting.readSettings_settings c]
  simp only [ofFields, hknown, hstats, hmodifiers]
  cases c.statModifiers with
  | nil => rfl
  | cons p t => rfl

theorem IsClamped.one_le_level (h : c.IsClamped) {p : Player} (hp : 0 ≤ p.xp) :
    1 ≤ p.level c := by
  have hlevels : 0 ≤ Int.fdiv p.xp c.xpPerLevel :=
    Int.fdiv_nonneg hp (Int.le_of_lt h.xpPerLevel_pos)
  unfold Player.level
  omega

/-- A configuration that is read is normal.  Bringing it into its ranges again changes nothing,
with its settings as they are or taken at their word, and from what is written of it the same
configuration is read again.  So there is something to divide by where a level is worked out, and
the level of whoever has experience that is not negative is at least one. -/
theorem ofJson_normal (h : ofJson v = .ok c) :
    IsNormal c.toJson ∧ c.clamp = c ∧ ofFields c.settings = .ok c ∧ ofJson c.toJson = .ok c ∧
      c.copy = .ok c ∧ 0 < c.xpPerLevel ∧ ∀ p : Player, 0 ≤ p.xp → 1 ≤ p.level c := by
  have hclamped := isClamped_of_ofJson h
  have hsame := hclamped.clamp_eq
  refine ⟨hclamped.isNormal, hsame, ?_, ?_, ?_, hclamped.xpPerLevel_pos,
    fun p => hclamped.one_le_level⟩
  · rw [ofFields_settings, hsame]
  · rw [ofJson_toJson, hsame]
  · rw [copy, ofJson_toJson, hsame]

theorem ofJson_normal_at_odds :
    let v : Json := .obj [("dieSides", .int 1000), ("die_sides", .str " 1_0 "),
      ("xpPerLevel", .int 0), ("questTag", .str ""), ("startingStats", .obj [("luck", .int 9)]),
      ("statModifiers", .obj [("cursed", .obj [("might", .bool true), ("luck", .int 5)]),
        ("blank", .obj [("luck", .int 5)]), ("odd", .arr [])])]
    let c : Config :=
      { dieSides := 10, xpPerLevel := 1, statModifiers := [("cursed", [(.might, 0)])] }
    ofJson v = .ok c ∧ c.copy = .ok c ∧ ({ xp := 7 } : Player).level c = 8 ∧
      1 ≤ ({ xp := 7 } : Player).level c := by
  intro v c
  -- of two spellings the later one counts, and modifiers that come to nothing are left out
  have hread : ofJson v = .ok c := by decide +kernel
  obtain ⟨-, -, -, -, hcopy, -, hlevel⟩ := ofJson_normal hread
  exact ⟨hread, hcopy, rfl, hlevel { xp := 7 } (by decide)⟩

end Config

end Questline
