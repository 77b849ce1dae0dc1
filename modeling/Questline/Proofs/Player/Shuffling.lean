import Questline.Proofs.Player.Accounts
import Questline.Proofs.Player.Likeness
import Questline.SkillCheck

/-!
# The order of tags

Tags are kept in a list, but it is meant as a multiset.  A player whose tags
are put in another order is told the same about himself, has the same bonuses,
is shown the same options, and is changed in the same way by steps and options,
up to the order of his tags once more.
-/

namespace Questline

/-! ## Lists in another order -/

theorem perm_surplus {xs ys xs' ys' : List String} (h : xs.Perm xs') (h' : ys.Perm ys') :
    (surplus xs ys).Perm (surplus xs' ys') := by
  simpa only [surplus, ← List.diff_eq_foldl] using h.diff h'

namespace Player

/-- The second player is the first with his tags in some order. -/
inductive Shuffled (p : Player) : Player → Prop
  | intro {tags : List String} (h : p.tags.Perm tags) : Shuffled p { p with tags := tags }

namespace Shuffled

variable {p q r u : Player} {d e : Draws}

theorem perm (h : p.Shuffled q) : p.tags.Perm q.tags := by
  cases h with
  | intro h => exact h

theorem refl (p : Player) : p.Shuffled p := .intro (List.Perm.refl _)

/-! ## What is asked of a player -/

theorem vars (h : p.Shuffled q) : p.vars = q.vars := by
  cases h with
  | intro h => rfl

theorem leveledUp (h : p.Shuffled q) : p.leveledUp = q.leveledUp := by
  cases h with
  | intro h => rfl

theorem count (h : p.Shuffled q) (tag : String) : p.count tag = q.count tag :=
  h.perm.count_eq tag

theorem has (h : p.Shuffled q) (tag : String) : p.has tag = q.has tag := h.perm.contains_eq

theorem level (h : p.Shuffled q) (config : Config) : p.level config = q.level config := by
  cases h with
  | intro h => rfl

theorem checkLevel (h : p.Shuffled q) (config : Config) :
    p.checkLevel config = q.checkLevel config := by
  rw [Player.checkLevel, Player.checkLevel, h.level]

theorem effectiveCounts (h : p.Shuffled q) (config : Config) :
    p.effectiveCounts config = q.effectiveCounts config := by
  funext name
  simp only [Player.effectiveCounts, h.count, h.level]

theorem effectiveStat (h : p.Shuffled q) (config : Config) (stat : Stat) :
    p.effectiveStat config stat = q.effectiveStat config stat := by
  have hmodifier : p.statModifier config stat = q.statModifier config stat :=
    total_of_perm (h.perm.map _)
  rw [Player.effectiveStat, Player.effectiveStat, hmodifier]
  cases h with
  | intro h => rfl

theorem tagsUnder (h : p.Shuffled q) (lead : String) :
    (p.tagsUnder lead).Perm (q.tagsUnder lead) :=
  (h.perm.filter _).map _

theorem grouped (h : p.Shuffled q) (lead : String) : p.grouped lead = q.grouped lead :=
  Text.sortTexts_eq_of_perm (Text.perm_eraseDups (h.tagsUnder lead))

theorem inventory (h : p.Shuffled q) : p.inventory = q.inventory := by
  simp only [Player.inventory, h.grouped, (h.tagsUnder "inv:").count_eq]

theorem summary (h : p.Shuffled q) : p.summary = q.summary := by
  have hitems : p.itemLine = q.itemLine := by rw [itemLine, itemLine, h.inventory]
  have htraits : p.traits = q.traits := h.grouped "trait:"
  rw [Player.summary, Player.summary, hitems, htraits]
  cases h with
  | intro h => rfl

/-! ## Changes to a player -/

theorem addTag (h : p.Shuffled q) (tag : String) : (p.addTag tag).Shuffled (q.addTag tag) := by
  cases h with
  | intro h => exact .intro (h.append_right [tag])

theorem removeTag (h : p.Shuffled q) (config : Config) (tag : String) :
    (p.removeTag config tag).Shuffled (q.removeTag config tag) := by
  have hhas := h.has tag
  cases h with
  | intro h =>
      unfold Player.removeTag
      rw [hhas]
      split
      · split
        · exact .intro ((h.erase tag).filter _)
        · exact .intro (h.erase tag)
      · exact .intro h

theorem keptByVariables : KeptByVariables Shuffled where
  set := by
    rintro p _ ⟨h⟩ name value
    exact .intro h
  clear := by
    rintro p _ ⟨h⟩ name
    exact .intro h

/-- A change that has nothing to do with tags. -/
theorem map {f : Player → Player} (h : p.Shuffled q)
    (hf : ∀ p tags, f { p with tags := tags } = { f p with tags := tags }) :
    (f p).Shuffled (f q) := by
  cases h with
  | @intro tags h =>
      have hsame := congrArg Player.tags (hf p p.tags)
      have htags : (f p).tags = p.tags := hsame
      have hchanged : (f p).Shuffled { f p with tags := tags } := .intro (by rwa [htags])
      have hcommutes := hf p tags
      dsimp only at hcommutes hchanged
      rwa [← hcommutes] at hchanged

theorem writeLog (h : p.Shuffled q) (config : Config) (log : Option String) :
    (Questline.writeLog config log p).Shuffled (Questline.writeLog config log q) := by
  cases h with
  | intro h =>
      unfold Questline.writeLog
      split
      · exact .intro h
      · exact .intro h

/-! ## Steps and options -/

theorem applyTokens (h : p.Shuffled q) (config : Config) (tokens : List String) :
    (Questline.applyTokens config tokens p).Shuffled (Questline.applyTokens config tokens q) := by
  unfold Questline.applyTokens
  induction tokens generalizing p q with
  | nil => exact h
  | cons token tokens ih =>
      apply ih
      simp only [applyToken, h.vars]
      cases (Tag.ofToken token).operator with
      | grant => exact h.addTag _
      | consume => exact h.removeTag config _
      | _ => exact h

/-- Reports are sorted. -/
theorem between (h : p.Shuffled q) (h' : r.Shuffled u) (config : Config) :
    Mutations.between config p r = Mutations.between config q u := by
  have hadded := Text.sortTexts_eq_of_perm (perm_surplus h'.perm h.perm)
  have hremoved := Text.sortTexts_eq_of_perm (perm_surplus h.perm h'.perm)
  simp only [Mutations.between, hadded, hremoved, h.level, h'.level]

theorem mutate (h : p.Shuffled q) (config : Config) (tokens : List String) :
    (Questline.mutate config tokens p).1.Shuffled (Questline.mutate config tokens q).1 ∧
      (Questline.mutate config tokens p).2 = (Questline.mutate config tokens q).2 :=
  ⟨h.applyTokens config tokens, h.between (h.applyTokens config tokens) config⟩

/-- Of two executions the second gives the player of the first with his tags in some order, and
everything else as the first. -/
structure Executions (x y : Executed) : Prop where
  player : x.player.Shuffled y.player
  text : x.text = y.text
  mutations : x.mutations = y.mutations
  pending : x.draws.pending = y.draws.pending

theorem execute (h : p.Shuffled q) (hdraws : d.pending = e.pending) (config : Config) (s : Step) :
    Executions (Questline.execute config s p d) (Questline.execute config s q e) := by
  obtain ⟨hmutated, hreport⟩ := h.mutate config s.tags
  obtain ⟨hsettled, hrest⟩ := keptByVariables.settleVariables hmutated hdraws s.vars
  have hlogged := hsettled.writeLog config s.log
  have hcounted := hlogged.map
    (f := fun p => { p with stepsCompleted := p.stepsCompleted + 1 }) fun _ _ => rfl
  refine ⟨hcounted, ?_, hreport, hrest⟩
  simp only [Questline.execute]
  rw [hcounted.vars]

theorem visibleOptions (h : p.Shuffled q) (config : Config) (options : List StepOption) :
    Questline.visibleOptions config options p = Questline.visibleOptions config options q := by
  have hview : viewOption (α := String) config p = viewOption config q := by
    funext index o
    simp only [viewOption, h.effectiveCounts, h.vars]
  rw [Questline.visibleOptions, Questline.visibleOptions, hview]

theorem checkSkills (h : p.Shuffled q) (hdraws : d.pending = e.pending) (config : Config)
    (skills : List String) (dc : Int) (announced : Option Int) :
    (Questline.checkSkills config skills dc p announced d).1 =
        (Questline.checkSkills config skills dc q announced e).1 ∧
      (Questline.checkSkills config skills dc p announced d).2.pending =
        (Questline.checkSkills config skills dc q announced e).2.pending := by
  have hbonus : skillBonus config p = skillBonus config q := by
    funext source
    simp only [skillBonus, h.effectiveStat, h.count]
  cases announced with
  | some roll => exact ⟨by simp only [Questline.checkSkills, rollFor, hbonus], hdraws⟩
  | none =>
      simp only [Questline.checkSkills, rollFor, hbonus, Draws.roll, Draws.pick, hdraws, and_self]

end Shuffled

end Player

end Questline
