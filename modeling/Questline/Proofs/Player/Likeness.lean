import Questline.Execution
import Questline.Proofs.Table
import Questline.Proofs.Template.Rendering

/-!
# Players alike

Players are alike who hold the same tags in the same order, give the same value
to every variable and have the same experience.  Whatever steps and options do
to a player looks at nothing else and changes alike players in the same way, so
logs, stats and counters make no difference to the way through the content.
-/

namespace Questline

/-- Where two tables give every name the same value, they fill a template in the same way. -/
theorem Template.render_congr {vars vars' : Table String}
    (h : ∀ name, Table.get? name vars = Table.get? name vars') (template : String) :
    render vars template = render vars' template := by
  have hagree : AgreeOn template vars vars' := ⟨fun name _ => h name, fun _ _ space _ _ _ => h _⟩
  exact hagree.render_eq

/-- Only the numbers still to come matter for what is chosen, not what was decided before. -/
theorem Draws.choose_congr {d e : Draws} (h : d.pending = e.pending) {α : Type} (xs : List α) :
    (d.choose xs).1 = (e.choose xs).1 ∧ (d.choose xs).2.pending = (e.choose xs).2.pending := by
  unfold choose
  split
  · exact ⟨rfl, h⟩
  · simp only [pick, h, and_self]

namespace Player

/-- What holds of two players still holds once a variable is set, or cleared, in both. -/
structure KeptByVariables (R : Player → Player → Prop) : Prop where
  set : ∀ {p q}, R p q → ∀ name value, R (p.setVariable name value) (q.setVariable name value)
  clear : ∀ {p q}, R p q → ∀ name, R (p.clearVariable name) (q.clearVariable name)

namespace KeptByVariables

variable {R : Player → Player → Prop} {p q : Player} {d e : Draws}

theorem assignChoice (hR : KeptByVariables R) (h : R p q) (name : String) (choice : Choice) :
    R (Questline.assignChoice name p choice) (Questline.assignChoice name q choice) := by
  cases choice with
  | text s => exact hR.set h name s
  | fields fs =>
      have hcleared := hR.clear h name
      unfold Questline.assignChoice
      generalize p.clearVariable name = p' at hcleared ⊢
      generalize q.clearVariable name = q' at hcleared ⊢
      induction fs generalizing p' q' with
      | nil => exact hcleared
      | cons f fs ih => exact ih _ _ (hR.set hcleared _ _)

theorem settleVariable (hR : KeptByVariables R) (h : R p q) (hdraws : d.pending = e.pending)
    (name : String) (choices : Option (List Choice)) :
    R (Questline.settleVariable name choices p d).1 (Questline.settleVariable name choices q e).1 ∧
      (Questline.settleVariable name choices p d).2.pending =
        (Questline.settleVariable name choices q e).2.pending := by
  cases choices with
  | none => exact ⟨hR.clear h name, hdraws⟩
  | some choices =>
      obtain ⟨hchoice, hrest⟩ := Draws.choose_congr hdraws choices
      cases hp : d.choose choices with
      | mk choice d' =>
          cases hq : e.choose choices with
          | mk choice' e' =>
              rw [hp, hq] at hchoice hrest
              cases hchoice
              simp only [Questline.settleVariable, hp, hq]
              cases choice with
              | none => exact ⟨h, hrest⟩
              | some choice => exact ⟨hR.assignChoice h name choice, hrest⟩

theorem settleVariables (hR : KeptByVariables R) (h : R p q) (hdraws : d.pending = e.pending)
    (vars : Declarations) :
    R (Questline.settleVariables vars p d).1 (Questline.settleVariables vars q e).1 ∧
      (Questline.settleVariables vars p d).2.pending =
        (Questline.settleVariables vars q e).2.pending := by
  unfold Questline.settleVariables
  induction vars generalizing p q d e with
  | nil => exact ⟨h, hdraws⟩
  | cons v vars ih =>
      obtain ⟨hplayers, hrest⟩ := hR.settleVariable h hdraws v.1 v.2
      exact ih hplayers hrest

end KeptByVariables

structure Alike (p q : Player) : Prop where
  tags : p.tags = q.tags
  vars : ∀ name, Table.get? name p.vars = Table.get? name q.vars
  xp : p.xp = q.xp

namespace Alike

variable {p q : Player} {d e : Draws} {config : Config}

theorem refl (p : Player) : p.Alike p := ⟨rfl, fun _ => rfl, rfl⟩

theorem symm (h : p.Alike q) : q.Alike p := ⟨h.tags.symm, fun name => (h.vars name).symm, h.xp.symm⟩

theorem trans {r : Player} (h : p.Alike q) (h' : q.Alike r) : p.Alike r :=
  ⟨h.tags.trans h'.tags, fun name => (h.vars name).trans (h'.vars name), h.xp.trans h'.xp⟩

theorem render (h : p.Alike q) (template : String) :
    Template.render p.vars template = Template.render q.vars template :=
  Template.render_congr h.vars template

theorem effectiveCounts (h : p.Alike q) (config : Config) :
    p.effectiveCounts config = q.effectiveCounts config := by
  funext name
  simp only [Player.effectiveCounts, count, level, h.tags, h.xp]

/-! ## Changes to a player -/

theorem addTag (h : p.Alike q) (tag : String) : (p.addTag tag).Alike (q.addTag tag) where
  tags := by rw [Player.addTag, Player.addTag, h.tags]
  vars := h.vars
  xp := h.xp

theorem removeTag (h : p.Alike q) (config : Config) (tag : String) :
    (p.removeTag config tag).Alike (q.removeTag config tag) := by
  have hhas : p.has tag = q.has tag := by rw [has, has, h.tags]
  unfold Player.removeTag
  rw [hhas]
  split
  · split
    · constructor
      · simp only [purge, grantXp, h.tags]
      · exact h.vars
      · simp only [purge, grantXp, h.xp]
    · constructor
      · simp only [h.tags]
      · exact h.vars
      · exact h.xp
  · exact h

theorem setVariable (h : p.Alike q) (name value : String) :
    (p.setVariable name value).Alike (q.setVariable name value) where
  tags := h.tags
  vars other := Table.get?_set_congr (h.vars other) name value
  xp := h.xp

theorem clearVariable (h : p.Alike q) (name : String) :
    (p.clearVariable name).Alike (q.clearVariable name) where
  tags := h.tags
  vars := by
    intro other
    have hkept := Table.get?_filter (α := String)
      (fun key => key ≠ name && !Text.leads (name ++ ".") key) other
    rw [Player.clearVariable, Player.clearVariable, hkept, hkept, h.vars other]
  xp := h.xp

/-- A log line is written for nobody but the reader. -/
theorem writeLog (config : Config) (log : Option String) (p : Player) :
    (Questline.writeLog config log p).Alike p := by
  unfold Questline.writeLog
  split
  · exact ⟨rfl, fun _ => rfl, rfl⟩
  · exact refl p

/-! ## Steps and options -/

theorem applyToken (h : p.Alike q) (config : Config) (token : String) :
    (Questline.applyToken config p token).Alike (Questline.applyToken config q token) := by
  simp only [Questline.applyToken, h.render]
  cases (Tag.ofToken token).operator with
  | grant => exact h.addTag _
  | consume => exact h.removeTag config _
  | _ => exact h

theorem applyTokens (h : p.Alike q) (config : Config) (tokens : List String) :
    (Questline.applyTokens config tokens p).Alike (Questline.applyTokens config tokens q) := by
  unfold Questline.applyTokens
  induction tokens generalizing p q with
  | nil => exact h
  | cons token tokens ih => exact ih (h.applyToken config token)

theorem mutate (h : p.Alike q) (config : Config) (tokens : List String) :
    (Questline.mutate config tokens p).1.Alike (Questline.mutate config tokens q).1 :=
  h.applyTokens config tokens

theorem keptByVariables : KeptByVariables Alike where
  set := setVariable
  clear := clearVariable

/-- A step that is executed does to the player what its tags and variables do. -/
theorem execute (h : p.Alike q) (hdraws : d.pending = e.pending) (config : Config) (s : Step) :
    let settled := Questline.settleVariables s.vars (Questline.mutate config s.tags q).1 e
    (Questline.execute config s p d).player.Alike settled.1 ∧
      (Questline.execute config s p d).draws.pending = settled.2.pending := by
  intro settled
  obtain ⟨hplayer, hrest⟩ := keptByVariables.settleVariables (h.mutate config s.tags) hdraws s.vars
  have hlogged := (writeLog config s.log _).trans hplayer
  exact ⟨⟨hlogged.tags, hlogged.vars, hlogged.xp⟩, hrest⟩

end Alike

end Player

end Questline
