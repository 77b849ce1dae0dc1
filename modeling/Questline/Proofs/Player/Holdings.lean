import Mathlib.Data.List.TakeWhile
import Mathlib.Data.Multiset.UnionInter
import Questline.Draft
import Questline.Proofs.Config.Ranges
import Questline.Proofs.Player.Accounts
import Questline.Proofs.Tag.Marks
import Questline.Proofs.Tag.WellFormed

/-!
# Holdings

Tokens that grant and consume act on what a player holds: the tags, however
they are ordered, and the experience.  One token gives or takes a single copy,
but for the one that ends the quest.  What a list of tokens leaves is told by
going through it, and the report is told by the two ends alone.
-/

namespace Questline

/-- What grants and consumptions act on. -/
structure Holdings where
  tags : Multiset String
  xp : Int
deriving DecidableEq

namespace Holdings

def gain (h : Holdings) (tag : String) : Holdings := { h with tags := tag ::ₘ h.tags }

/-- One copy goes, if there is any.  With a copy of the quest tag every tag of the quest goes, and
the experience of a quest comes. -/
def lose (config : Config) (h : Holdings) (tag : String) : Holdings :=
  if tag ∈ h.tags then
    let left := h.tags.erase tag
    if tag = config.questTag then
      ⟨left.filter fun t => Text.leads config.questLead t = false, h.xp + config.questXp⟩
    else { h with tags := left }
  else h

/-- The holdings after a token, its name filled in. -/
def after (config : Config) (vars : Table String) (h : Holdings) (token : String) : Holdings :=
  match token.toList with
  | '+' :: name => h.gain (Template.render vars (.ofList name))
  | '-' :: name => h.lose config (Template.render vars (.ofList name))
  | _ => h

end Holdings

def Player.holdings (p : Player) : Holdings := ⟨p.tags, p.xp⟩

variable {config : Config} {p q : Player} {token : String} {tokens : List String}

/-! ## One token -/

theorem holdings_addTag (p : Player) (tag : String) :
    (p.addTag tag).holdings = p.holdings.gain tag := by
  rw [Player.holdings, Player.addTag, Holdings.gain, Player.holdings, Multiset.cons_coe,
    Holdings.mk.injEq, Multiset.coe_eq_coe]
  exact ⟨List.perm_append_singleton tag p.tags, rfl⟩

theorem holdings_removeTag (config : Config) (p : Player) (tag : String) :
    (p.removeTag config tag).holdings = p.holdings.lose config tag := by
  have hheld : p.has tag = true ↔ tag ∈ p.holdings.tags := by
    rw [Player.has, List.contains_iff_mem, Player.holdings, Multiset.mem_coe]
  unfold Player.removeTag Holdings.lose
  by_cases h : p.has tag = true
  · rw [if_pos h, if_pos (hheld.mp h)]
    by_cases hquest : tag = config.questTag
    · simp [hquest, Player.holdings, Player.purge, Player.grantXp]
    · simp [hquest, Player.holdings]
  · rw [if_neg h, if_neg (mt hheld.mpr h)]

theorem holdings_applyToken (config : Config) (p : Player) (token : String) :
    (applyToken config p token).holdings = p.holdings.after config p.vars token := by
  unfold Holdings.after
  split
  · next name h =>
      rw [applyToken, Tag.ofToken_of_plus h]
      exact holdings_addTag p _
  · next name h =>
      rw [applyToken, Tag.ofToken_of_minus h]
      exact holdings_removeTag config p _
  · next hplus hminus =>
      have hidle := Tag.isMutation_ofToken_eq_false hplus hminus
      unfold applyToken
      dsimp only
      split
      · simp_all [Tag.isMutation, Operator.isMutation]
      · simp_all [Tag.isMutation, Operator.isMutation]
      · rfl

/-! ## Lists of tokens -/

theorem vars_applyToken (config : Config) (p : Player) (token : String) :
    (applyToken config p token).vars = p.vars := by
  obtain ⟨_, _, _, h⟩ := p.exists_applyToken_eq config token
  rw [h]

/-- What a list of tokens leaves, all names filled in from the variables at its beginning. -/
theorem holdings_applyTokens (config : Config) (tokens : List String) (p : Player) :
    (applyTokens config tokens p).holdings =
      tokens.foldl (Holdings.after config p.vars) p.holdings := by
  induction tokens generalizing p with
  | nil => rfl
  | cons token tokens ih =>
      rw [List.foldl_cons, ← holdings_applyToken, ← vars_applyToken config p token]
      exact ih (applyToken config p token)

/-! ## Levels -/

theorem leveledUp_removeTag (config : Config) (p : Player) (tag : String) :
    (p.removeTag config tag).leveledUp =
      (p.leveledUp || decide (p.level config < (p.removeTag config tag).level config)) := by
  unfold Player.removeTag
  split
  · split
    · rfl
    · simp [Player.level]
  · simp

theorem leveledUp_applyToken (config : Config) (p : Player) (token : String) :
    (applyToken config p token).leveledUp =
      (p.leveledUp || decide (p.level config < (applyToken config p token).level config)) := by
  rcases p.applyToken_cases config token with ⟨tag, h⟩ | ⟨tag, h⟩ | h
  · simp [h, Player.addTag, Player.level]
  · rw [h]
    exact leveledUp_removeTag config p tag
  · simp [h]

/-- A level-up is pending if one was, or if the level rose: it never falls on the way. -/
theorem leveledUp_applyTokens (hlevel : 0 < config.xpPerLevel) (hquest : 0 ≤ config.questXp)
    (tokens : List String) (p : Player) :
    (applyTokens config tokens p).leveledUp =
      (p.leveledUp || decide (p.level config < (applyTokens config tokens p).level config)) := by
  induction tokens generalizing p with
  | nil => simp [applyTokens]
  | cons token tokens ih =>
      have hfirst : p.level config ≤ (applyToken config p token).level config :=
        Player.level_mono hlevel (p.xp_le_applyTokens hquest [token])
      have hrest : (applyToken config p token).level config ≤
          (applyTokens config (token :: tokens) p).level config :=
        Player.level_mono hlevel ((applyToken config p token).xp_le_applyTokens hquest tokens)
      have hflag := ih (applyToken config p token)
      rw [leveledUp_applyToken, Bool.or_assoc, ← Bool.decide_or] at hflag
      refine hflag.trans (congrArg (p.leveledUp || ·) (decide_eq_decide.mpr ?_))
      change _ ∨ _ < (applyTokens config (token :: tokens) p).level config ↔ _
      omega

/-! ## Reports -/

/-- A report of what came and what went between two multisets of tags, each in order. -/
structure Mutations.Reports (m : Mutations) (before after : Multiset String) : Prop where
  added : (m.added : Multiset String) = after - before
  removed : (m.removed : Multiset String) = before - after
  disjoint : m.added.Disjoint m.removed
  added_sorted : m.added.Pairwise (· ≤ ·)
  removed_sorted : m.removed.Pairwise (· ≤ ·)

theorem coe_surplus (xs ys : List String) : (surplus xs ys : Multiset String) = xs - ys := by
  ext tag
  rw [Multiset.coe_count, count_surplus, Multiset.count_sub, Multiset.coe_count,
    Multiset.coe_count]

theorem coe_sortTexts (xs : List String) : (Text.sortTexts xs : Multiset String) = xs :=
  Multiset.coe_eq_coe.mpr (Text.perm_sortTexts xs)

theorem Mutations.reports_between (config : Config) (p q : Player) :
    (between config p q).Reports p.tags q.tags where
  added := (coe_sortTexts _).trans (coe_surplus _ _)
  removed := (coe_sortTexts _).trans (coe_surplus _ _)
  disjoint := by
    rw [← Multiset.coe_disjoint, between, coe_sortTexts, coe_sortTexts, coe_surplus, coe_surplus,
      Multiset.disjoint_left]
    intro tag hcame hwent
    rw [Multiset.mem_sub] at hcame hwent
    omega
  added_sorted := Text.pairwise_sortTexts _
  removed_sorted := Text.pairwise_sortTexts _

/-! ## Tokens that nobody has checked -/

theorem Draft.mutate_of_readable (h : ∀ token ∈ tokens, Tag.isReadable token = true)
    (config : Config) (p : Player) :
    mutate config tokens p =
      (applyTokens config tokens p, .ok (.between config p (applyTokens config tokens p))) := by
  have hall : tokens.takeWhile Tag.isReadable = tokens := List.takeWhile_eq_self_iff.mpr h
  rw [mutate, hall, if_pos (List.all_eq_true.mpr h)]

theorem Draft.exists_mutate_iff :
    (∃ m, (mutate config tokens p).2 = .ok m) ↔ ∀ token ∈ tokens, Tag.isReadable token = true := by
  rw [← List.all_eq_true, mutate]
  cases tokens.all Tag.isReadable <;> simp

/-- Tokens can be applied exactly if all of them can be read.  They leave what going through them
leaves, name by name, of the tags as a multiset and of the experience; a level-up is pending if one
was or the level rose; nothing else is changed; and the report tells what came, what went and
whether the level rose. -/
theorem tokens_act_on_holdings {v : Json} {config : Config} (hconfig : Config.ofJson v = .ok config)
    (tokens : List String) (p : Player) :
    ((∃ m, (Draft.mutate config tokens p).2 = .ok m) ↔
      ∀ token ∈ tokens, Tag.isReadable token = true) ∧
    ∀ q m, Draft.mutate config tokens p = (q, .ok m) →
      q.holdings = tokens.foldl (Holdings.after config p.vars) p.holdings ∧
      q.leveledUp = (p.leveledUp || decide (p.level config < q.level config)) ∧
      q = { p with tags := q.tags, xp := q.xp, leveledUp := q.leveledUp } ∧
      m.Reports p.tags q.tags ∧ (m.leveledUp = true ↔ p.level config < q.level config) := by
  have hclamped := Config.isClamped_of_ofJson hconfig
  refine ⟨Draft.exists_mutate_iff, ?_⟩
  intro q m hmutate
  have hreadable : ∀ token ∈ tokens, Tag.isReadable token = true :=
    Draft.exists_mutate_iff.mp ⟨m, congrArg Prod.snd hmutate⟩
  rw [Draft.mutate_of_readable hreadable, Prod.mk.injEq, Except.ok.injEq] at hmutate
  obtain ⟨rfl, rfl⟩ := hmutate
  refine ⟨holdings_applyTokens config tokens p,
    leveledUp_applyTokens hclamped.xpPerLevel_pos hclamped.questXp_nonneg tokens p, ?_,
    Mutations.reports_between config p _, decide_eq_true_iff⟩
  obtain ⟨tags, xp, leveledUp, h⟩ := p.exists_applyTokens_eq config tokens
  rw [h]

/-- A quest that ends takes along a tag that was given on the way, its name filled in. -/
theorem tokens_act_on_holdings_of_quest :
    Config.ofJson .null = .ok {} ∧
      ∃ q m, Draft.mutate {} ["+q:\x7b\x7bpet\x7d\x7d", "+rope", "-quest", "-coin"]
          { tags := ["quest", "rope"], vars := [("pet", "cat")], xp := 4 } = (q, .ok m) ∧
        q.holdings = ⟨["rope", "rope"], 5⟩ ∧ q.leveledUp = true ∧
        m.Reports ["quest", "rope"] q.tags := by
  have hconfig : Config.ofJson .null = .ok {} := rfl
  obtain ⟨hanswers, hheld⟩ := tokens_act_on_holdings hconfig
    ["+q:\x7b\x7bpet\x7d\x7d", "+rope", "-quest", "-coin"]
    { tags := ["quest", "rope"], vars := [("pet", "cat")], xp := 4 }
  obtain ⟨m, hm⟩ := hanswers.mpr (by decide)
  obtain ⟨hholdings, hpending, -, hreports, -⟩ := hheld _ m (Prod.ext rfl hm)
  refine ⟨hconfig, _, m, Prod.ext rfl hm, hholdings.trans ?_, hpending.trans ?_, hreports⟩
  · decide +kernel
  · decide +kernel

/-- A condition with a number of too many digits stops the tokens behind it, although conditions
change nothing. -/
theorem mutate_can_stop :
    let coins := Tag.coinsOfOnes (Text.digitLimit + 1)
    Draft.mutate {} [coins, "+rope"] {} = ({}, .error .unreadableNumber) := by
  intro coins
  have hcoins : Tag.isReadable coins = false := Tag.isReadable_too_many_ones
  have htaken : [coins, "+rope"].takeWhile Tag.isReadable = [] :=
    List.takeWhile_cons_of_neg (by simp [hcoins])
  rw [Draft.mutate, htaken, List.all_cons, hcoins]
  rfl

end Questline
