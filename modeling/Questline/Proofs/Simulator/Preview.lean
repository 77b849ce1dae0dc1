import Questline.Proofs.Content.Reach
import Questline.Proofs.Matching.Patching
import Questline.Proofs.Player.Holdings
import Questline.Proofs.Simulator.History
import Questline.Proofs.Simulator.Lockstep

/-!
# Previews of options

The preview of an option names what the option and the step it leads to grant
and consume.  It looks at the first of the best steps for the player as he is,
as the step was written.  Taking the option draws among the best steps for the
player who has paid for it, and puts patches on the step: what changes is
foretold by the preview if all this makes no difference.
-/

namespace Questline

/-! ## Names without placeholders -/

/-- A token that grants or consumes a tag whose name has no placeholders, or does neither. -/
def Tag.IsPlain (token : String) : Prop :=
  (ofToken token).isMutation = true → Template.names (ofToken token).name = []

instance (token : String) : Decidable (Tag.IsPlain token) :=
  inferInstanceAs (Decidable (_ → _))

variable {config : Config} {p : Player} {token tag : String} {tokens : List String}

/-! ## What tokens can do -/

theorem Tag.IsPlain.render (h : Tag.IsPlain token) (hmutation : (ofToken token).isMutation = true)
    (vars : Table String) : Template.render vars (ofToken token).name = (ofToken token).name :=
  Template.render_eq_self (by simp [h hmutation])

theorem mem_grantedNames_cons : tag ∈ grantedNames (token :: tokens) ↔
    ((Tag.ofToken token).operator = .grant ∧ (Tag.ofToken token).name = tag) ∨
      tag ∈ grantedNames tokens := by
  by_cases h : (Tag.ofToken token).operator = .grant <;> simp [grantedNames, h, @eq_comm _ tag]

theorem mem_consumedNames_cons : tag ∈ consumedNames (token :: tokens) ↔
    ((Tag.ofToken token).operator = .consume ∧ (Tag.ofToken token).name = tag) ∨
      tag ∈ consumedNames tokens := by
  by_cases h : (Tag.ofToken token).operator = .consume <;> simp [consumedNames, h, @eq_comm _ tag]

theorem grantedNames_subset {more : List String} (h : tokens ⊆ more) :
    grantedNames tokens ⊆ grantedNames more :=
  List.filterMap_subset _ (List.map_subset _ h)

theorem consumedNames_subset {more : List String} (h : tokens ⊆ more) :
    consumedNames tokens ⊆ consumedNames more :=
  List.filterMap_subset _ (List.map_subset _ h)

/-- What came is granted; what went is consumed, or the quest is, and takes its tags along. -/
structure Foretold (config : Config) (grants consumes added removed : List String) : Prop where
  added : ∀ tag ∈ added, tag ∈ grants
  removed : ∀ tag ∈ removed,
    tag ∈ consumes ∨ config.questTag ∈ consumes ∧ Text.leads config.questLead tag = true

namespace Foretold

variable {grants consumes grants' consumes' added removed added' removed' : List String}

theorem mono (h : Foretold config grants consumes added removed) (hgrants : grants ⊆ grants')
    (hconsumes : consumes ⊆ consumes') : Foretold config grants' consumes' added removed where
  added := fun tag htag => hgrants (h.added tag htag)
  removed := fun tag htag => (h.removed tag htag).imp (fun hname => hconsumes hname)
    fun ⟨hquest, hlead⟩ => ⟨hconsumes hquest, hlead⟩

theorem append (h : Foretold config grants consumes added removed)
    (hmore : Foretold config grants consumes added' removed') :
    Foretold config grants consumes (added ++ added') (removed ++ removed') where
  added := by
    simp only [List.forall_mem_append]
    exact ⟨h.added, hmore.added⟩
  removed := by
    simp only [List.forall_mem_append]
    exact ⟨h.removed, hmore.removed⟩

theorem eraseDups (h : Foretold config grants consumes added removed) :
    Foretold config grants consumes added.eraseDups removed.eraseDups where
  added := fun tag htag => h.added tag (List.mem_eraseDups.mp htag)
  removed := fun tag htag => h.removed tag (List.mem_eraseDups.mp htag)

end Foretold

theorem sublist_removeTag (config : Config) (p : Player) (name : String) :
    (p.removeTag config name).tags.Sublist p.tags := by
  unfold Player.removeTag
  split
  · split
    · exact List.filter_sublist.trans List.erase_sublist
    · exact List.erase_sublist
  · exact List.Sublist.refl _

theorem count_le_removeTag (p : Player) {name : String} (hname : name ≠ tag)
    (hquest : name = config.questTag → Text.leads config.questLead tag = false) :
    p.tags.count tag ≤ (p.removeTag config name).tags.count tag := by
  unfold Player.removeTag
  split
  · split
    · next hends =>
        simp only [Player.purge, Player.grantXp]
        rw [List.count_filter (by simp [hquest hends]), List.count_erase_of_ne hname.symm]
    · rw [List.count_erase_of_ne hname.symm]
  · exact Nat.le_refl _

/-- What a token with a plain name does to a player: it takes its name as it stands. -/
theorem applyToken_of_isPlain (hplain : Tag.IsPlain token) (config : Config) (p : Player) :
    ((Tag.ofToken token).operator = .grant ∧
        applyToken config p token = p.addTag (Tag.ofToken token).name) ∨
      ((Tag.ofToken token).operator = .consume ∧
        applyToken config p token = p.removeTag config (Tag.ofToken token).name) ∨
      applyToken config p token = p := by
  unfold applyToken
  dsimp only
  split
  · next hoperator =>
      rw [hplain.render (by rw [Tag.isMutation, hoperator]; rfl)]
      exact .inl ⟨hoperator, rfl⟩
  · next hoperator =>
      rw [hplain.render (by rw [Tag.isMutation, hoperator]; rfl)]
      exact .inr (.inl ⟨hoperator, rfl⟩)
  · exact .inr (.inr rfl)

theorem count_applyTokens_le (hplain : ∀ token ∈ tokens, Tag.IsPlain token)
    (h : tag ∉ grantedNames tokens) (config : Config) (p : Player) :
    (applyTokens config tokens p).tags.count tag ≤ p.tags.count tag := by
  induction tokens generalizing p with
  | nil => exact Nat.le_refl _
  | cons token tokens ih =>
      rw [List.forall_mem_cons] at hplain
      rw [mem_grantedNames_cons, not_or] at h
      refine (ih hplain.2 h.2 (applyToken config p token)).trans ?_
      obtain ⟨hgrant, htoken⟩ | ⟨-, htoken⟩ | htoken := applyToken_of_isPlain hplain.1 config p
      · have hother : (Tag.ofToken token).name ≠ tag := fun hname => h.1 ⟨hgrant, hname⟩
        rw [htoken, Player.addTag, List.count_append, List.count_singleton]
        simp [hother]
      · rw [htoken]
        exact (sublist_removeTag config p _).count_le tag
      · rw [htoken]

theorem count_le_applyTokens (hplain : ∀ token ∈ tokens, Tag.IsPlain token)
    (h : tag ∉ consumedNames tokens)
    (hquest : config.questTag ∈ consumedNames tokens → Text.leads config.questLead tag = false)
    (p : Player) : p.tags.count tag ≤ (applyTokens config tokens p).tags.count tag := by
  induction tokens generalizing p with
  | nil => exact Nat.le_refl _
  | cons token tokens ih =>
      rw [List.forall_mem_cons] at hplain
      rw [mem_consumedNames_cons] at h hquest
      rw [not_or] at h
      refine le_trans ?_ (ih hplain.2 h.2 (fun hrest => hquest (.inr hrest)) _)
      obtain ⟨-, htoken⟩ | ⟨hconsume, htoken⟩ | htoken :=
        applyToken_of_isPlain hplain.1 config p
      · rw [htoken, Player.addTag, List.count_append]
        exact Nat.le_add_right _ _
      · rw [htoken]
        exact count_le_removeTag p (fun hname => h.1 ⟨hconsume, hname⟩)
          fun hends => hquest (.inl ⟨hconsume, hends⟩)
      · rw [htoken]

/-- Tokens with plain names foretell what they change. -/
theorem foretold_mutate (hplain : ∀ token ∈ tokens, Tag.IsPlain token) (config : Config)
    (p : Player) :
    Foretold config (grantedNames tokens) (consumedNames tokens)
      (mutate config tokens p).2.added (mutate config tokens p).2.removed where
  added := by
    intro tag htag
    have hcame := List.count_pos_iff.mpr ((Text.perm_sortTexts _).mem_iff.mp htag)
    rw [count_surplus] at hcame
    by_contra hname
    have hcount := count_applyTokens_le hplain hname config p
    omega
  removed := by
    intro tag htag
    have hwent := List.count_pos_iff.mpr ((Text.perm_sortTexts _).mem_iff.mp htag)
    rw [count_surplus] at hwent
    by_contra hname
    rw [not_or, not_and, Bool.not_eq_true] at hname
    have hcount := count_le_applyTokens hplain hname.1 hname.2 p
    omega

/-- No tag that is granted or consumed in the content has a name with placeholders. -/
structure Content.IsPlain (c : Content) : Prop where
  steps : ∀ s ∈ c.steps, ∀ token ∈ s.tokens, Tag.IsPlain token
  patches : ∀ p ∈ c.patches, ∀ token ∈ p.tokens, Tag.IsPlain token

namespace Simulator

variable {s : Simulator} {o : StepOption} {step : Step} {outcome : CheckOutcome}

/-! ## What taking an option applies -/

/-- The step that an option leads to without a check, drawn for the player who has paid for it. -/
def destination? (s : Simulator) (o : StepOption) : Option Step :=
  o.passTarget.bind fun target => ((s.charged o).select target).1

/-- The patches that apply on arrival. -/
def arrivalPatches (s : Simulator) (o : StepOption) (step : Step) : List StepPatch :=
  applicable step (s.content.patchesFor step.id) (s.charged o).counts

/-- The tags of the step that an option leads to, with those of its patches. -/
def arrivalTokens (s : Simulator) (o : StepOption) : List String :=
  ((s.destination? o).map fun step => ((s.charged o).composed step).tags).getD []

theorem targetOf_of_not_isSkillCheck (h : o.isSkillCheck = false) (outcome : CheckOutcome) :
    targetOf o outcome = o.passTarget := by
  rw [targetOf, h]
  rfl

theorem report_enter (s : Simulator) (target : String) :
    (s.enter target).2 = ((s.select target).1.map fun arrived =>
      (mutate s.config (s.composed arrived).tags s.player).2).getD {} := by
  unfold enter
  split
  · next draws hselect => rw [hselect]; rfl
  · next arrived draws hselect => rw [hselect]; rfl

/-- The report of an option without a check: what it does itself, and then what the step does that
it leads to. -/
theorem report_takeOption (h : o.isSkillCheck = false) (step : Step) (outcome : CheckOutcome) :
    let own := (mutate s.config o.tags s.player).2
    let more := ((s.destination? o).map fun arrived =>
      (mutate s.config ((s.charged o).composed arrived).tags (s.charged o).player).2).getD {}
    (s.takeOption step o outcome).2.added = (own.added ++ more.added).eraseDups ∧
      (s.takeOption step o outcome).2.removed = (own.removed ++ more.removed).eraseDups := by
  unfold takeOption destination?
  rw [targetOf_of_not_isSkillCheck h]
  cases o.passTarget with
  | none => simp
  | some target =>
      have hreport : (enter { s with player := (mutate s.config o.tags s.player).1 } target).2 =
          (((s.charged o).select target).1.map fun arrived =>
            (mutate s.config ((s.charged o).composed arrived).tags (s.charged o).player).2).getD
              {} :=
        report_enter (s.charged o) target
      simp only [Option.bind_some]
      rw [hreport]
      exact ⟨rfl, rfl⟩

/-- Taking an option without a check changes nothing but what its own tokens foretell and those of
the step that it leads to. -/
theorem foretold_takeOption (h : o.isSkillCheck = false)
    (hplain : ∀ token ∈ o.tags ++ s.arrivalTokens o, Tag.IsPlain token) (step : Step)
    (outcome : CheckOutcome) :
    Foretold s.config (grantedNames (o.tags ++ s.arrivalTokens o))
      (consumedNames (o.tags ++ s.arrivalTokens o)) (s.takeOption step o outcome).2.added
      (s.takeOption step o outcome).2.removed := by
  rw [List.forall_mem_append] at hplain
  obtain ⟨hadded, hremoved⟩ := report_takeOption h step outcome (s := s)
  rw [hadded, hremoved]
  refine Foretold.eraseDups (Foretold.append ?_ ?_)
  · have hown := foretold_mutate hplain.1 s.config s.player
    exact hown.mono (grantedNames_subset (List.subset_append_left _ _))
      (consumedNames_subset (List.subset_append_left _ _))
  · obtain ⟨-, hplain⟩ := hplain
    unfold arrivalTokens at hplain ⊢
    cases hdestination : s.destination? o with
    | none => exact ⟨nofun, nofun⟩
    | some arrived =>
        rw [hdestination] at hplain
        have hmore := foretold_mutate hplain s.config (s.charged o).player
        exact hmore.mono (grantedNames_subset (List.subset_append_right _ _))
          (consumedNames_subset (List.subset_append_right _ _))

/-! ## What the preview looks at -/

/-- An option leads nowhere, or to the step that its preview looks at, and no patch that applies
there grants or consumes anything. -/
def LeadsAsPreviewed (s : Simulator) (o : StepOption) : Prop :=
  ∀ arrived, s.destination? o = some arrived →
    o.passTarget.bind s.peek = some arrived ∧
      ∀ p ∈ s.arrivalPatches o arrived, mutationTokens p.tags = []

theorem subset_previewTokens (h : o.isSkillCheck = false) (hleads : s.LeadsAsPreviewed o) :
    o.tags ++ s.arrivalTokens o ⊆ s.previewTokens o := by
  have hpreview : s.previewTokens o =
      o.tags ++ ((o.passTarget.bind s.peek).map (·.tags)).getD [] := by
    rw [previewTokens, h]
    rfl
  rw [hpreview]
  refine List.append_subset.mpr ⟨List.subset_append_left _ _, ?_⟩
  refine List.Subset.trans ?_ (List.subset_append_right _ _)
  unfold arrivalTokens
  cases hdestination : s.destination? o with
  | none => exact List.nil_subset _
  | some arrived =>
      obtain ⟨hpeek, hpatches⟩ := hleads arrived hdestination
      have htags : ((s.charged o).composed arrived).tags = arrived.tags := by
        have hnone : ((s.arrivalPatches o arrived).flatMap fun p => mutationTokens p.tags) = [] :=
          List.flatMap_eq_nil_iff.mpr hpatches
        rw [composed, compose_eq, withPatches]
        change arrived.tags ++ (s.arrivalPatches o arrived).flatMap _ = _
        rw [hnone, List.append_nil]
      rw [hpeek, Option.map_some, Option.getD_some, Option.map_some, Option.getD_some, htags]
      exact List.Subset.refl _

/-! ## Options of reachable states -/

theorem isPlain_of_composed (hplain : s.content.IsPlain) (hstep : step ∈ s.content.steps) :
    ∀ token ∈ (s.composed step).tokens, Tag.IsPlain token :=
  fun _ htoken => s.content.forall_mem_compose hplain.steps hplain.patches hstep htoken

theorem isPlain_of_option (hplain : s.content.IsPlain) (hs : s.Selected)
    (hshown : s.patchedStep = some step) (ho : o ∈ step.options) :
    ∀ token ∈ o.tags, Tag.IsPlain token := by
  intro token htoken
  obtain ⟨base, hbase, rfl⟩ := Option.map_eq_some_iff.mp hshown
  apply isPlain_of_composed hplain (hs.mem_steps hbase)
  exact List.mem_append_right _ (List.mem_flatMap.mpr ⟨o, ho, htoken⟩)

theorem isPlain_of_arrivalTokens (hplain : s.content.IsPlain) (o : StepOption) :
    ∀ token ∈ s.arrivalTokens o, Tag.IsPlain token := by
  intro token htoken
  unfold arrivalTokens at htoken
  cases hdestination : s.destination? o with
  | none => simp [hdestination] at htoken
  | some arrived =>
      rw [hdestination] at htoken
      obtain ⟨target, -, hselect⟩ := Option.bind_eq_some_iff.mp hdestination
      have harrived : arrived ∈ s.content.steps := mem_steps_of_selectStep hselect
      apply isPlain_of_composed (s := s.charged o) hplain harrived
      exact List.mem_append_left _ htoken

theorem exists_of_getElem?_options {v : SimulatedOption} {i : Nat}
    (offered : s.options[i]? = some v) :
    ∃ step, s.patchedStep = some step ∧ step.options[i]? = some v.option ∧
      v = s.simulateOption i v.option := by
  unfold options at offered
  cases hshown : s.patchedStep with
  | none => simp [hshown] at offered
  | some step =>
      rw [hshown, List.getElem?_mapIdx, Option.map_eq_some_iff] at offered
      obtain ⟨o, ho, rfl⟩ := offered
      exact ⟨step, rfl, ho, rfl⟩

/-- In content whose tags are plainly named, taking an option without a check adds and removes, in
any state that can be reached and whatever is drawn, nothing but what the tokens of the option and
of the step it leads to foretell.  If that step is the one that the preview looks at, and no patch
on it changes tags, this is nothing but what the preview names. -/
theorem preview_foretells (reached : s.Reachable) (hplain : s.content.IsPlain) {i : Nat}
    {v : SimulatedOption} (offered : s.options[i]? = some v)
    (hcheck : v.option.isSkillCheck = false) (outcome : CheckOutcome) (draws : Draws) :
    let t : Simulator := { s with draws := draws }
    let tokens := v.option.tags ++ t.arrivalTokens v.option
    ∃ moved entry, t.take i outcome.name = .ok (moved, entry) ∧
      Foretold s.config (grantedNames tokens) (consumedNames tokens) entry.added entry.removed ∧
      (t.LeadsAsPreviewed v.option →
        Foretold s.config v.grants v.consumes entry.added entry.removed) := by
  intro t tokens
  obtain ⟨step, hshown, ho, hview⟩ := exists_of_getElem?_options offered
  have hoption := isPlain_of_option hplain reached.selected hshown (List.mem_of_getElem? ho)
  have harrival := isPlain_of_arrivalTokens (s := t) hplain v.option
  have hforetold := foretold_takeOption (s := t) hcheck
    (List.forall_mem_append.mpr ⟨hoption, harrival⟩) step outcome
  refine ⟨_, _, take_eq_ok (w := t) hshown ho outcome, hforetold, fun hleads => ?_⟩
  have hsubset := subset_previewTokens (s := t) hcheck hleads
  rw [hview]
  exact hforetold.mono (grantedNames_subset hsubset) (consumedNames_subset hsubset)

def board : StepOption where
  label := "Board"
  tags := ["inv:ticket", "-inv:ticket"]
  passTarget := some "Train"

/-- A train that brings the journey to its end, and something to eat. -/
def railway : Content where
  steps :=
    [{ id := "Platform", text := "A platform.", options := [board] },
      { id := "Train", text := "A train.", tags := ["+inv:snack", "-quest"] }]

/-- The journey ends as foretold, and takes the tags of the quest along. -/
theorem preview_foretells_at_platform :
    let s := (begin railway ["quest", "q:journey", "inv:ticket"] {}).run [.setLocation "Platform"]
    s.Reachable ∧ s.content.IsPlain ∧ s.LeadsAsPreviewed board ∧
      ∃ v moved entry, s.options[0]? = some v ∧ v.option.isSkillCheck = false ∧
        v.grants = ["inv:snack"] ∧ v.consumes = ["inv:ticket", "quest"] ∧
        s.take (0 : Nat) CheckOutcome.pass.name = .ok (moved, entry) ∧
        entry.tagsAfter = ["inv:snack"] ∧
        Foretold {} v.grants v.consumes entry.added entry.removed := by
  intro s
  have reached : s.Reachable := ⟨_, _, _, _, rfl⟩
  have hplain : s.content.IsPlain := by constructor <;> decide +kernel
  have hleads : s.LeadsAsPreviewed board := by
    intro arrived hdestination
    have htrain : s.destination? board = some railway.steps[1] := by decide +kernel
    obtain rfl := Option.some.inj (htrain.symm.trans hdestination)
    exact ⟨by decide +kernel, by decide +kernel⟩
  have hoffered : s.options[0]? = some (s.simulateOption 0 board) := by decide +kernel
  obtain ⟨moved, entry, htake, -, hforetold⟩ :=
    preview_foretells reached hplain hoffered (by decide) .pass s.draws
  have hafter : ((s.take (0 : Nat) CheckOutcome.pass.name).map fun r => r.2.tagsAfter) =
      .ok ["inv:snack"] := by
    decide +kernel
  rw [show s.take _ _ = .ok (moved, entry) from htake] at hafter
  exact ⟨reached, hplain, hleads, _, moved, entry, hoffered, by decide, by decide +kernel,
    by decide +kernel, htake, Except.ok.inj hafter, hforetold hleads⟩

/-- The tags that an option adds although its preview does not name them. -/
def surprises (s : Simulator) (i : Nat) : List String :=
  match s.options[i]?, s.take i "pass" with
  | some v, .ok (_, entry) => entry.added.filter fun tag => !v.grants.contains tag
  | _, _ => []

/-- Streets that lead to one of two tales at random, to an inn that greets tired guests in another
way, and to a vault with a patch. -/
def town : Content where
  steps :=
    [{ id := "Town", text := "A town."
       options :=
        [{ label := "Listen", passTarget := some "Market" },
          { label := "Work", tags := ["+tired"], passTarget := some "Inn" },
          { label := "Enter", passTarget := some "Vault" }] },
      { id := "Market", text := "A rumor.", tags := ["+rumor"] },
      { id := "Market", text := "A song.", tags := ["+song"] },
      { id := "Inn", text := "A drink.", tags := ["!tired", "+drink"] },
      { id := "Inn", text := "A bed.", tags := ["tired", "+sleep"] },
      { id := "Vault", text := "A vault." }]
  patches := [{ target := .str "Vault", tags := ["+seen"] }]

/-- The preview names the first of two steps that are equally good, the step for the player before
he has paid for the option, and the step without its patches. -/
theorem preview_can_miss :
    let s := (begin town [] { pending := [0, 1] }).run [.setLocation "Town"]
    s.content.IsPlain ∧ (s.options.map fun v => v.option.isSkillCheck) = [false, false, false] ∧
      (s.surprises 0, s.surprises 1, s.surprises 2) = (["song"], ["sleep"], ["seen"]) := by
  refine ⟨?_, ?_, ?_⟩
  · constructor <;> decide +kernel
  · decide +kernel
  · decide +kernel

end Simulator

end Questline
