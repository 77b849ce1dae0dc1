import Questline.Proofs.Attempt
import Questline.Proofs.Content.Records

/-!
# Ranges of a configuration

A configuration that was read has been brought into its ranges, and so has the
one that built content comes with.
-/

namespace Questline

namespace Config

def IsClamped (c : Config) : Prop := ∃ read : Config, c = read.clamp

theorem le_clampInt (low high n : Int) : low ≤ clampInt low high n := by
  unfold clampInt
  omega

theorem IsClamped.questXp_nonneg {c : Config} (h : c.IsClamped) : 0 ≤ c.questXp := by
  obtain ⟨read, rfl⟩ := h
  exact le_clampInt 0 1000 read.questXp

theorem IsClamped.xpPerLevel_pos {c : Config} (h : c.IsClamped) : 0 < c.xpPerLevel := by
  obtain ⟨read, rfl⟩ := h
  exact le_clampInt 1 1000 read.xpPerLevel

theorem IsClamped.one_lt_dieSides {c : Config} (h : c.IsClamped) : 1 < c.dieSides := by
  obtain ⟨read, rfl⟩ := h
  exact le_clampInt 2 100 read.dieSides

theorem isClamped_of_readSettings {how : Reading} {stats modifiers settings : Table Json}
    {c : Config} (h : readSettings how stats modifiers settings = .ok c) : c.IsClamped := by
  simp only [readSettings, bind_eq_ok_iff] at h
  obtain ⟨_, -, _, -, _, -, _, -, _, -, _, -, _, -, _, -, _, -, _, -, h⟩ := h
  exact ⟨_, (Except.ok.inj h).symm⟩

theorem isClamped_of_ofJson {v : Json} {c : Config} (h : ofJson v = .ok c) : c.IsClamped := by
  unfold ofJson at h
  split at h
  · -- the defaults are within their ranges
    exact ⟨{}, (Except.ok.inj h).symm⟩
  · exact isClamped_of_readSettings h

end Config

theorem Content.isClamped_of_build {source : Option String} {payload : Payload} {c : Content}
    (h : build source payload = .ok c) : c.config.IsClamped := by
  unfold build at h
  rw [bind_eq_ok_iff] at h
  obtain ⟨report, -, h⟩ := h
  split at h
  · simp only [assemble, bind_eq_ok_iff] at h
    obtain ⟨steps, -, patches, -, config, hconfig, h⟩ := h
    split at h
    · contradiction
    · obtain rfl := Except.ok.inj h
      exact Config.isClamped_of_ofJson (liftContent_eq_ok_iff.mp hconfig)
  · contradiction

end Questline
