import Questline.Execution
import Mathlib.Tactic.Ring

/-!
# Experience

The only thing in the content that gives experience is the end of a quest: a
token that consumes the quest tag while the player holds it.  The experience of
a player after a list of tokens is therefore known from the number of quests
that the tokens end.
-/

namespace Questline

namespace Player

variable {config : Config} {p : Player}

/-- The token consumes the quest tag, and there is a quest to end. -/
def endsQuest (config : Config) (p : Player) (token : String) : Bool :=
  let t := Tag.ofToken token
  t.operator = .consume && Template.render p.vars t.name = config.questTag &&
    p.has config.questTag

/-- How many quests a list of tokens ends, applied one after the other. -/
def questsEnded (config : Config) (p : Player) : List String → Nat
  | [] => 0
  | token :: tokens =>
    (if p.endsQuest config token then 1 else 0) +
      (applyToken config p token).questsEnded config tokens

theorem exists_removeTag_eq (p : Player) (config : Config) (tag : String) :
    ∃ tags xp leveledUp,
      p.removeTag config tag = { p with tags := tags, xp := xp, leveledUp := leveledUp } := by
  unfold removeTag
  split
  · split
    · exact ⟨_, _, _, rfl⟩
    · exact ⟨_, p.xp, p.leveledUp, rfl⟩
  · exact ⟨p.tags, p.xp, p.leveledUp, rfl⟩

/-- All that a token can do. -/
theorem applyToken_cases (p : Player) (config : Config) (token : String) :
    (∃ tag, applyToken config p token = p.addTag tag) ∨
      (∃ tag, applyToken config p token = p.removeTag config tag) ∨
        applyToken config p token = p := by
  unfold applyToken
  dsimp only
  split
  · exact .inl ⟨_, rfl⟩
  · exact .inr (.inl ⟨_, rfl⟩)
  · exact .inr (.inr rfl)

theorem exists_applyToken_eq (p : Player) (config : Config) (token : String) :
    ∃ tags xp leveledUp,
      applyToken config p token = { p with tags := tags, xp := xp, leveledUp := leveledUp } := by
  rcases applyToken_cases p config token with ⟨tag, h⟩ | ⟨tag, h⟩ | h
  · exact ⟨_, p.xp, p.leveledUp, h⟩
  · rw [h]
    exact exists_removeTag_eq p config tag
  · exact ⟨p.tags, p.xp, p.leveledUp, h⟩

theorem exists_applyTokens_eq (p : Player) (config : Config) (tokens : List String) :
    ∃ tags xp leveledUp,
      applyTokens config tokens p = { p with tags := tags, xp := xp, leveledUp := leveledUp } := by
  induction tokens generalizing p with
  | nil => exact ⟨p.tags, p.xp, p.leveledUp, rfl⟩
  | cons token tokens ih =>
      obtain ⟨_, _, _, htoken⟩ := exists_applyToken_eq p config token
      obtain ⟨tags, xp, leveledUp, htokens⟩ := ih (applyToken config p token)
      refine ⟨tags, xp, leveledUp, ?_⟩
      rw [htoken] at htokens
      rw [applyTokens, List.foldl_cons, htoken]
      exact htokens

theorem xp_removeTag (p : Player) (config : Config) (tag : String) :
    (p.removeTag config tag).xp =
      p.xp + if tag = config.questTag ∧ p.has config.questTag then config.questXp else 0 := by
  unfold removeTag
  by_cases hquest : tag = config.questTag
  · subst hquest
    cases p.has config.questTag <;> simp [purge, grantXp]
  · simp only [hquest, if_false, false_and]
    split <;> simp

theorem xp_applyToken (p : Player) (config : Config) (token : String) :
    (applyToken config p token).xp =
      p.xp + if p.endsQuest config token then config.questXp else 0 := by
  unfold applyToken endsQuest
  cases hoperator : (Tag.ofToken token).operator with
  | consume => simp [hoperator, xp_removeTag]
  | _ => simp [hoperator, addTag]

/-- Every quest that is ended gives its experience, and nothing else does. -/
theorem xp_applyTokens (p : Player) (config : Config) (tokens : List String) :
    (applyTokens config tokens p).xp =
      p.xp + p.questsEnded config tokens * config.questXp := by
  induction tokens generalizing p with
  | nil => simp [applyTokens, questsEnded]
  | cons token tokens ih =>
      have htail : (applyTokens config (token :: tokens) p).xp =
          (applyToken config p token).xp +
            (applyToken config p token).questsEnded config tokens * config.questXp :=
        ih (applyToken config p token)
      rw [htail, xp_applyToken, questsEnded]
      split <;> push_cast <;> ring

/-- Experience is only ever gained: so much for every quest that ends. -/
theorem xp_le_applyTokens (hquest : 0 ≤ config.questXp) (p : Player) (tokens : List String) :
    p.xp ≤ (applyTokens config tokens p).xp := by
  have hgained := Int.mul_nonneg (Int.natCast_nonneg (p.questsEnded config tokens)) hquest
  have hxp := p.xp_applyTokens config tokens
  omega

theorem exists_foldl_setVariable_eq (name : String) (fs : Table String) (p : Player) :
    ∃ vars, fs.foldl (fun p f => p.setVariable (name ++ "." ++ f.1) f.2) p =
      { p with vars := vars } := by
  induction fs generalizing p with
  | nil => exact ⟨p.vars, rfl⟩
  | cons f fs ih => exact ih (p.setVariable (name ++ "." ++ f.1) f.2)

theorem exists_settleVariable_eq (name : String) (choices : Option (List Choice)) (p : Player)
    (draws : Draws) :
    ∃ vars, (settleVariable name choices p draws).1 = { p with vars := vars } := by
  unfold settleVariable
  split
  · exact ⟨_, rfl⟩
  · split
    · next choice _ _ =>
        cases choice with
        | text s => exact ⟨_, rfl⟩
        | fields fs => exact exists_foldl_setVariable_eq name fs (p.clearVariable name)
    · exact ⟨p.vars, rfl⟩

/-- Nothing but variables is settled. -/
theorem exists_settleVariables_eq (vars : Declarations) (p : Player) (draws : Draws) :
    ∃ settled, (settleVariables vars p draws).1 = { p with vars := settled } := by
  unfold settleVariables
  induction vars generalizing p draws with
  | nil => exact ⟨p.vars, rfl⟩
  | cons v vars ih =>
      obtain ⟨first, hfirst⟩ := exists_settleVariable_eq v.1 v.2 p draws
      obtain ⟨settled, hrest⟩ :=
        ih (settleVariable v.1 v.2 p draws).1 (settleVariable v.1 v.2 p draws).2
      refine ⟨settled, hrest.trans ?_⟩
      rw [hfirst]

theorem xp_settleVariables (vars : Declarations) (p : Player) (draws : Draws) :
    (settleVariables vars p draws).1.xp = p.xp := by
  obtain ⟨_, hsettled⟩ := exists_settleVariables_eq vars p draws
  rw [hsettled]

end Player

end Questline
