import Questline.Proofs.Content.Reach
import Questline.Proofs.Matching.Patching
import Questline.Proofs.Player.Likeness

/-!
# What is filled in for a step

The text of a step, its log line, the labels of its options and the names that
its tags and theirs grant and consume are templates.  What the variables give
for a name that stands in none of them makes no difference to what the step
does, shows and writes down.
-/

namespace Questline

/-! ## Templates of records -/

/-- The names that tokens grant and consume, before they are filled in. -/
def changedNames (tokens : List String) : List String := grantedNames tokens ++ consumedNames tokens

def TextChangeOf.texts (t : TextChangeOf String) : List String :=
  t.before.toList ++ t.after.toList ++ t.instead.toList

/-- The templates that are filled in on behalf of a step. -/
def StepOf.templates (s : Step) : List String :=
  s.text :: s.log.toList ++ s.options.map (·.label) ++ changedNames s.tokens

def PatchOf.templates (p : StepPatch) : List String :=
  p.text.texts ++ p.options.map (·.label) ++ changedNames p.tokens

theorem StepOf.label_mem_templates {s : Step} {o : StepOption} (h : o ∈ s.options) :
    o.label ∈ s.templates := by
  rw [StepOf.templates, List.mem_append, List.mem_append]
  exact .inl (.inr (List.mem_map_of_mem h))

theorem PatchOf.label_mem_templates {p : StepPatch} {o : StepOption} (h : o ∈ p.options) :
    o.label ∈ p.templates := by
  rw [PatchOf.templates, List.mem_append, List.mem_append]
  exact .inl (.inr (List.mem_map_of_mem h))

/-- The names of the placeholders of some templates. -/
def filledNames (templates : List String) : List String := templates.flatMap Template.names

theorem filledNames_append (ts us : List String) :
    filledNames (ts ++ us) = filledNames ts ++ filledNames us :=
  List.flatMap_append

theorem mem_changedNames_iff {name : String} {tokens : List String} :
    name ∈ changedNames tokens ↔
      ∃ token ∈ tokens,
        (Tag.ofToken token).isMutation = true ∧ (Tag.ofToken token).name = name := by
  simp only [changedNames, grantedNames, consumedNames, List.mem_append, List.filterMap_map,
    List.mem_filterMap, Function.comp_apply, Option.ite_none_right_eq_some, Option.some.injEq,
    ← exists_or, ← and_or_left, ← or_and_right]
  refine exists_congr fun token => and_congr_right fun _ => and_congr_left fun _ => ?_
  rw [Tag.isMutation]
  cases (Tag.ofToken token).operator <;> simp [Operator.isMutation]

theorem changedNames_subset {tokens tokens' : List String} (h : tokens ⊆ tokens') :
    changedNames tokens ⊆ changedNames tokens' := by
  intro name hname
  obtain ⟨token, htoken, hmutation⟩ := mem_changedNames_iff.mp hname
  exact mem_changedNames_iff.mpr ⟨token, h htoken, hmutation⟩

/-! ## Templates of a step with patches -/

theorem mem_textPieces {text piece : String} {changes : List (TextChangeOf String)}
    (h : piece ∈ textPieces properText? text changes) :
    piece = text ∨ ∃ t ∈ changes, piece ∈ t.texts := by
  have hproper : ∀ (part : TextChangeOf String → Option String),
      piece ∈ (changes.filterMap fun t => (part t).bind properText?) →
      ∃ t ∈ changes, part t = some piece := by
    intro part hpiece
    obtain ⟨t, ht, hpart⟩ := List.mem_filterMap.mp hpiece
    obtain ⟨written, hwritten, hsame⟩ := Option.bind_eq_some_iff.mp hpart
    exact ⟨t, ht, by rw [hwritten, (properText?_eq_some_iff.mp hsame).1]⟩
  unfold textPieces at h
  split at h
  · next replacement hlast =>
      obtain rfl := List.mem_singleton.mp h
      obtain ⟨t, ht, hinstead⟩ := hproper (·.instead) (List.mem_of_getLast? hlast)
      exact .inr ⟨t, ht, by simp [TextChangeOf.texts, hinstead]⟩
  · rw [List.mem_append, List.mem_append, List.mem_singleton] at h
    rcases h with (h | h) | h
    · obtain ⟨t, ht, hbefore⟩ := hproper (·.before) h
      exact .inr ⟨t, ht, by simp [TextChangeOf.texts, hbefore]⟩
    · exact .inl h
    · obtain ⟨t, ht, hafter⟩ := hproper (·.after) h
      exact .inr ⟨t, ht, by simp [TextChangeOf.texts, hafter]⟩

/-- Patches bring the templates of their own along, and put their texts together with the text of
the step. -/
theorem mem_templates_compose {separator template : String} {base : Step}
    {patches : List StepPatch} {counts : Counts}
    (h : template ∈ (compose separator base patches counts).templates) :
    template ∈ base.templates ∨ (∃ p ∈ patches, template ∈ p.templates) ∨
      ∃ pieces, template = Text.joined separator pieces ∧
        ∀ piece ∈ pieces, piece = base.text ∨ ∃ p ∈ patches, piece ∈ p.text.texts := by
  have happlied : ∀ p ∈ applicable base patches counts, p ∈ patches :=
    fun p hp => (List.mem_filter.mp hp).1
  rw [StepOf.templates, List.mem_append, List.mem_append, List.mem_cons] at h
  rcases h with ((htext | hlog) | hlabel) | hchanged
  · unfold compose at htext
    split at htext
    · exact .inl (by simp [StepOf.templates, htext])
    · refine .inr (.inr ⟨_, htext, fun piece hpiece => ?_⟩)
      refine (mem_textPieces hpiece).imp_right ?_
      rintro ⟨t, ht, hpiece⟩
      obtain ⟨p, hp, rfl⟩ := List.mem_map.mp ht
      exact ⟨p, happlied p hp, hpiece⟩
  · have hsame : (compose separator base patches counts).log = base.log := by
      unfold compose
      split <;> rfl
    rw [hsame] at hlog
    exact .inl (by simp [StepOf.templates, hlog])
  · obtain ⟨o, ho, rfl⟩ := List.mem_map.mp hlabel
    have hfrom : o ∈ base.options ∨ ∃ p ∈ patches, o ∈ p.options := by
      unfold compose at ho
      split at ho
      · exact .inl ho
      · refine (List.mem_append.mp ho).imp_right fun ho => ?_
        obtain ⟨p, hp, ho⟩ := List.mem_flatMap.mp ho
        exact ⟨p, happlied p hp, ho⟩
    rcases hfrom with ho | ⟨p, hp, ho⟩
    · exact .inl (StepOf.label_mem_templates ho)
    · exact .inr (.inl ⟨p, hp, PatchOf.label_mem_templates ho⟩)
  · obtain ⟨token, htoken, hmutation⟩ := mem_changedNames_iff.mp hchanged
    rcases mem_tokens_of_mem_compose htoken with htoken | ⟨p, hp, htoken⟩
    · refine .inl (List.mem_append_right _ ?_)
      exact mem_changedNames_iff.mpr ⟨token, htoken, hmutation⟩
    · refine .inr (.inl ⟨p, hp, List.mem_append_right _ ?_⟩)
      exact mem_changedNames_iff.mpr ⟨token, htoken, hmutation⟩

/-! ## Players who are alike for templates -/

namespace Player

/-- Two players who differ in their variables alone, and there in nothing that fills a placeholder
of the templates. -/
structure AlikeFor (templates : List String) (p q : Player) : Prop where
  agree : ∀ template ∈ templates, Template.AgreeOn template p.vars q.vars
  same : { p with vars := q.vars } = q

namespace AlikeFor

variable {ts : List String} {p q : Player} {config : Config}

theorem render (h : AlikeFor ts p q) {template : String} (ht : template ∈ ts) :
    Template.render p.vars template = Template.render q.vars template :=
  (h.agree template ht).render_eq

/-- What does not look at the variables is the same for both. -/
theorem congr {α : Type} (h : AlikeFor ts p q) (f : Player → α)
    (hf : ∀ vars, f { p with vars := vars } = f p) : f p = f q :=
  calc f p = f { p with vars := q.vars } := (hf q.vars).symm
    _ = f q := congrArg f h.same

theorem effectiveCounts (h : AlikeFor ts p q) (config : Config) :
    p.effectiveCounts config = q.effectiveCounts config :=
  h.congr (Player.effectiveCounts · config) fun _ => rfl

/-! ## Changes to both -/

theorem addTag (h : AlikeFor ts p q) (tag : String) :
    AlikeFor ts (p.addTag tag) (q.addTag tag) where
  agree := h.agree
  same := congrArg (Player.addTag · tag) h.same

theorem removeTag_withVars (p : Player) (vars : Table String) (config : Config) (tag : String) :
    ({ p with vars := vars } : Player).removeTag config tag =
      { p.removeTag config tag with vars := vars } := by
  have hhas : ({ p with vars := vars } : Player).has tag = p.has tag := rfl
  unfold Player.removeTag
  rw [hhas]
  split
  · split <;> rfl
  · rfl

theorem vars_removeTag (p : Player) (config : Config) (tag : String) :
    (p.removeTag config tag).vars = p.vars := by
  unfold Player.removeTag
  split
  · split <;> rfl
  · rfl

theorem removeTag (h : AlikeFor ts p q) (config : Config) (tag : String) :
    AlikeFor ts (p.removeTag config tag) (q.removeTag config tag) where
  agree := by
    rw [vars_removeTag, vars_removeTag]
    exact h.agree
  same := by rw [vars_removeTag, ← removeTag_withVars, h.same]

theorem addLogEntry (h : AlikeFor ts p q) (entry : String) (cap : Int) :
    AlikeFor ts (p.addLogEntry entry cap) (q.addLogEntry entry cap) where
  agree := h.agree
  same := congrArg (Player.addLogEntry · entry cap) h.same

theorem setVariable (h : AlikeFor ts p q) (name value : String) :
    AlikeFor ts (p.setVariable name value) (q.setVariable name value) where
  agree template ht := by
    have hagree := h.agree template ht
    constructor
    · exact fun other hother => Table.get?_set_congr (hagree.value other hother) name value
    · exact fun other hother space word hsplit hword =>
        Table.get?_set_congr (hagree.gender other hother space word hsplit hword) name value
  same := congrArg (fun r : Player => { r with vars := (q.setVariable name value).vars }) h.same

theorem clearVariable (h : AlikeFor ts p q) (name : String) :
    AlikeFor ts (p.clearVariable name) (q.clearVariable name) where
  agree template ht := by
    have hagree := h.agree template ht
    have hkept : ∀ (r : Player) (other : String), Table.get? other (r.clearVariable name).vars =
        if other ≠ name && !Text.leads (name ++ ".") other then Table.get? other r.vars else none :=
      fun r other => Table.get?_filter
        (fun key => key ≠ name && !Text.leads (name ++ ".") key) other r.vars
    constructor
    · intro other hother
      rw [hkept, hkept, hagree.value other hother]
    · intro other hother space word hsplit hword
      rw [hkept, hkept, hagree.gender other hother space word hsplit hword]
  same := congrArg (fun r : Player => { r with vars := (q.clearVariable name).vars }) h.same

theorem keptByVariables : KeptByVariables (AlikeFor ts) where
  set := setVariable
  clear := clearVariable

/-! ## Steps and options -/

theorem applyToken (h : AlikeFor ts p q) (config : Config) {token : String}
    (ht : changedNames [token] ⊆ ts) :
    AlikeFor ts (Questline.applyToken config p token) (Questline.applyToken config q token) := by
  simp only [Questline.applyToken]
  cases hoperator : (Tag.ofToken token).operator with
  | grant =>
      have hname : (Tag.ofToken token).name ∈ ts :=
        ht (by simp [changedNames, grantedNames, hoperator])
      dsimp only
      rw [h.render hname]
      exact h.addTag _
  | consume =>
      have hname : (Tag.ofToken token).name ∈ ts :=
        ht (by simp [changedNames, consumedNames, hoperator])
      dsimp only
      rw [h.render hname]
      exact h.removeTag config _
  | _ => exact h

theorem applyTokens (h : AlikeFor ts p q) (config : Config) {tokens : List String}
    (ht : changedNames tokens ⊆ ts) :
    AlikeFor ts (Questline.applyTokens config tokens p)
      (Questline.applyTokens config tokens q) := by
  unfold Questline.applyTokens
  induction tokens generalizing p q with
  | nil => exact h
  | cons token tokens ih =>
      have hfirst : changedNames [token] ⊆ changedNames (token :: tokens) :=
        changedNames_subset (by simp)
      have hrest : changedNames tokens ⊆ changedNames (token :: tokens) :=
        changedNames_subset (List.subset_cons_self _ _)
      exact ih (h.applyToken config (List.Subset.trans hfirst ht)) (List.Subset.trans hrest ht)

theorem mutate (h : AlikeFor ts p q) (config : Config) {tokens : List String}
    (ht : changedNames tokens ⊆ ts) :
    AlikeFor ts (Questline.mutate config tokens p).1 (Questline.mutate config tokens q).1 ∧
      (Questline.mutate config tokens p).2 = (Questline.mutate config tokens q).2 := by
  have happlied : AlikeFor ts (Questline.applyTokens config tokens p)
      (Questline.applyTokens config tokens q) := h.applyTokens config ht
  refine ⟨happlied, ?_⟩
  simp only [Questline.mutate, Mutations.between]
  rw [h.congr Player.tags fun _ => rfl, happlied.congr Player.tags fun _ => rfl,
    h.congr (Player.level · config) fun _ => rfl,
    happlied.congr (Player.level · config) fun _ => rfl]

theorem writeLog (h : AlikeFor ts p q) (config : Config) {log : Option String}
    (ht : log.toList ⊆ ts) :
    AlikeFor ts (Questline.writeLog config log p) (Questline.writeLog config log q) := by
  unfold Questline.writeLog
  split
  · next line hline =>
      have hlog : log = some line := by
        obtain ⟨written, rfl, hproper⟩ := Option.bind_eq_some_iff.mp hline
        rw [(properText?_eq_some_iff.mp hproper).1]
      rw [h.render (ht (by simp [hlog]))]
      exact h.addLogEntry _ _
  · exact h

end AlikeFor

end Player

/-! ## What a step shows and does -/

/-- What variables give for names that stand in no template of a step makes no difference to what
the step does and shows, to its options and to what they do. -/
theorem shows_alike {s : Step} {p q : Player} (h : p.AlikeFor s.templates q) (config : Config)
    (draws : Draws) :
    (execute config s p draws).text = (execute config s q draws).text ∧
      (execute config s p draws).mutations = (execute config s q draws).mutations ∧
      (execute config s p draws).player.AlikeFor s.templates (execute config s q draws).player ∧
      visibleOptions config s.options p = visibleOptions config s.options q ∧
      ∀ o ∈ s.options, (mutate config o.tags p).2 = (mutate config o.tags q).2 ∧
        (mutate config o.tags p).1.AlikeFor s.templates (mutate config o.tags q).1 := by
  have htokens : ∀ tokens ⊆ s.tokens, changedNames tokens ⊆ s.templates := by
    intro tokens htokens
    exact List.Subset.trans (changedNames_subset htokens) (List.subset_append_right _ _)
  have hlog : s.log.toList ⊆ s.templates := by
    intro line hline
    simp [StepOf.templates, hline]
  have htext : s.text ∈ s.templates := by simp [StepOf.templates]
  obtain ⟨hmutated, hmutations⟩ :=
    h.mutate config (htokens s.tags (List.subset_append_left _ _))
  obtain ⟨hsettled, -⟩ :=
    Player.AlikeFor.keptByVariables.settleVariables hmutated (Eq.refl draws.pending) s.vars
  have hlogged := hsettled.writeLog config hlog
  refine ⟨?_, hmutations, ?_, ?_, ?_⟩
  · exact hlogged.render htext
  · exact ⟨hlogged.agree,
      congrArg (fun r : Player => { r with stepsCompleted := r.stepsCompleted + 1 }) hlogged.same⟩
  · have hviews :
        s.options.mapIdx (viewOption config p) = s.options.mapIdx (viewOption config q) := by
      refine List.ext_getElem? fun i => ?_
      rw [List.getElem?_mapIdx, List.getElem?_mapIdx]
      refine Option.map_congr fun o ho => ?_
      have hlabel : o.label ∈ s.templates :=
        StepOf.label_mem_templates (List.mem_of_getElem? ho)
      rw [viewOption, viewOption, h.render hlabel, h.effectiveCounts]
    rw [visibleOptions, visibleOptions, hviews]
  · intro o ho
    have hsub : o.tags ⊆ s.tokens := by
      intro token htoken
      exact List.mem_append_right _ (List.mem_flatMap.mpr ⟨o, ho, htoken⟩)
    exact (h.mutate config (htokens o.tags hsub)).symm

end Questline
