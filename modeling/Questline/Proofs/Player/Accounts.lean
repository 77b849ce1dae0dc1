import Questline.Proofs.Player.Experience
import Questline.Proofs.Text.Sorting
import Mathlib.Data.List.Count
import Mathlib.Data.List.Basic

/-!
# Reports account for changes

A report is the difference of the tags held before and after, taken both ways.
Reports of changes made one after the other are put together by listing them
all: a tag that came in one and went in the other is then on both sides, and
the balance is right all the same.
-/

namespace Questline

theorem count_surplus (xs ys : List String) (x : String) :
    (surplus xs ys).count x = xs.count x - ys.count x := by
  rw [surplus, ← List.diff_eq_foldl, List.count_diff]

/-- From one player to the other, every copy of a tag that came or went is in the report, and the
report tells whether the level rose; it did not fall. -/
structure Mutations.Accounts (m : Mutations) (config : Config) (p q : Player) : Prop where
  tags : ∀ tag, (q.tags.count tag : Int) =
    p.tags.count tag + m.added.count tag - m.removed.count tag
  leveledUp : m.leveledUp = true ↔ p.level config < q.level config
  level_le : p.level config ≤ q.level config

variable {config : Config} {p q r : Player} {m n : Mutations}

theorem Player.level_mono (hlevel : 0 < config.xpPerLevel) (h : p.xp ≤ q.xp) :
    p.level config ≤ q.level config := by
  have hquotient := Int.ediv_le_ediv hlevel h
  simp only [Player.level, Int.fdiv_eq_ediv_of_nonneg _ hlevel.le]
  omega

namespace Mutations

theorem accounts_between (h : p.level config ≤ q.level config) :
    (between config p q).Accounts config p q where
  tags := by
    intro tag
    have hadded := (Text.perm_sortTexts (surplus q.tags p.tags)).count_eq tag
    have hremoved := (Text.perm_sortTexts (surplus p.tags q.tags)).count_eq tag
    rw [count_surplus] at hadded hremoved
    simp only [between, hadded, hremoved]
    omega
  leveledUp := decide_eq_true_iff
  level_le := h

namespace Accounts

theorem of_same (htags : q.tags = p.tags) (hxp : q.xp = p.xp) :
    ({} : Mutations).Accounts config p q where
  tags := by simp [htags]
  leveledUp := by simp [Player.level, hxp]
  level_le := by simp [Player.level, hxp]

theorem merge (hm : m.Accounts config p q) (hn : n.Accounts config q r) :
    (m.merge n).Accounts config p r where
  tags := by
    intro tag
    have hfirst := hm.tags tag
    have hsecond := hn.tags tag
    simp only [Mutations.merge, List.count_append]
    omega
  leveledUp := by
    have hfirst := hm.level_le
    have hsecond := hn.level_le
    simp only [Mutations.merge, Bool.or_eq_true, hm.leveledUp, hn.leveledUp]
    omega
  level_le := hm.level_le.trans hn.level_le

/-- Only tags and experience are accounted for. -/
theorem congr (h : m.Accounts config p q) (htags : r.tags = q.tags) (hxp : r.xp = q.xp) :
    m.Accounts config p r where
  tags := by
    rw [htags]
    exact h.tags
  leveledUp := by
    simp only [Player.level, hxp]
    exact h.leveledUp
  level_le := by
    simp only [Player.level, hxp]
    exact h.level_le

end Accounts

end Mutations

/-! ## Steps and options -/

variable (hquest : 0 ≤ config.questXp) (hlevel : 0 < config.xpPerLevel)
include hquest hlevel

theorem mutate_accounts (tokens : List String) (p : Player) :
    (mutate config tokens p).2.Accounts config p (mutate config tokens p).1 := by
  apply Mutations.accounts_between
  exact Player.level_mono hlevel (p.xp_le_applyTokens hquest tokens)

theorem execute_accounts (s : Step) (p : Player) (draws : Draws) :
    (execute config s p draws).mutations.Accounts config p (execute config s p draws).player := by
  have hmutated := mutate_accounts hquest hlevel s.tags p
  obtain ⟨_, hsettled⟩ :=
    Player.exists_settleVariables_eq s.vars (mutate config s.tags p).1 draws
  apply hmutated.congr
  · simp only [execute, writeLog]
    split <;> simp only [hsettled, Player.addLogEntry]
  · simp only [execute, writeLog]
    split <;> simp only [hsettled, Player.addLogEntry]

end Questline
