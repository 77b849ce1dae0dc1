import Questline.Proofs.Matching.Drafts
import Questline.Proofs.Matching.Search
import Questline.Proofs.Table

/-!
# What patches leave of a step

Each patch is put to the test by itself.  Those that apply add to the step in
their order and take nothing away; only text and variables of the step can be
written over, and then the last patch counts.  What they add to the tags are
grants and consumptions, of which the conditions, the score and the analysis of
a step take no notice.
-/

namespace Questline

variable {weight : Int} {separator token text : String} {tokens : List String} {counts : Counts}
  {base s : Step} {applied patches : List StepPatch} {p : StepPatch}

/-! ## Grants and consumptions -/

/-- Whether a token begins with the mark of a grant or of a consumption. -/
def isMutationToken (token : String) : Bool := Text.leads "+" token || Text.leads "-" token

theorem isMutation_ofToken (token : String) :
    (Tag.ofToken token).isMutation = isMutationToken token := by
  rw [Bool.eq_iff_iff, Tag.isMutation, Tag.operator_ofToken, isMutationToken, Bool.or_eq_true]
  simp only [Text.leads, Option.isSome_iff_exists, Text.afterLead?_eq_some]
  change _ ↔ (∃ rest, token.toList = '+' :: rest) ∨ ∃ rest, token.toList = '-' :: rest
  generalize token.toList = cs
  unfold Operator.split
  split
  all_goals simp_all [Operator.isMutation]

theorem mutationTokens_eq (tokens : List String) :
    mutationTokens tokens = tokens.filter isMutationToken := by
  apply List.filter_congr
  intro token _
  exact isMutation_ofToken token

/-- A grant or a consumption is no condition on the player. -/
theorem isPlayerCondition_of_isMutationToken (h : isMutationToken token = true) :
    (Tag.ofToken token).isPlayerCondition = false := by
  rw [← isMutation_ofToken, Tag.isMutation] at h
  rw [Tag.isPlayerCondition]
  cases hoperator : (Tag.ofToken token).operator with
  | grant => rfl
  | consume => rfl
  | _ => simp [hoperator, Operator.isMutation] at h

theorem conditionHolds_of_isMutationToken (h : isMutationToken token = true) (scope : Scope)
    (counts : Counts) : conditionHolds scope counts token = true := by
  simp [conditionHolds, Tag.met, isPlayerCondition_of_isMutationToken h]

theorem tokenScore_of_isMutationToken (h : isMutationToken token = true) (weight : Int)
    (counts : Counts) : tokenScore weight counts token = 0 := by
  have hcondition := isPlayerCondition_of_isMutationToken h
  have hprefer : (Tag.ofToken token).operator ≠ .prefer := by
    intro hoperator
    simp [Tag.isPlayerCondition, hoperator, Operator.isPlayerCondition] at hcondition
  simp [tokenScore, hprefer]

theorem analyzeToken_of_isMutationToken (h : isMutationToken token = true) (counts : Counts) :
    analyzeToken counts token = none := by
  simp [analyzeToken, isPlayerCondition_of_isMutationToken h]

theorem isReadable_of_isMutationToken (h : isMutationToken token = true) :
    Tag.isReadable token = true := by
  rw [← isMutation_ofToken, Tag.isMutation, Tag.operator_ofToken] at h
  unfold Tag.isReadable Tag.parts
  dsimp only
  rw [if_pos h]

/-! ## Patches that apply -/

/-- A patch applies to the step that it is for if the player satisfies its conditions, and if the
step, by the names among its tags, has what the patch asks of it and lacks what the patch
forbids. -/
structure Applies (base : Step) (counts : Counts) (p : StepPatch) : Prop where
  attached : p.target = .str base.id
  notPatch : isPatchId base.id = false
  satisfied : ∀ token ∈ p.tags, (Tag.ofToken token).Satisfied counts
  present : ∀ token ∈ p.tags, (Tag.ofToken token).operator = .baseRequire →
    (Tag.ofToken token).Asks (baseCounts base (Tag.ofToken token).name)
  absent : ∀ token ∈ p.tags, (Tag.ofToken token).operator = .baseForbid →
    ¬ (Tag.ofToken token).Asks (baseCounts base (Tag.ofToken token).name)

theorem patchTagHolds_iff {t : Tag} : patchTagHolds base counts t = true ↔
    t.Satisfied counts ∧ (t.operator = .baseRequire → t.Asks (baseCounts base t.name)) ∧
      (t.operator = .baseForbid → ¬ t.Asks (baseCounts base t.name)) := by
  rw [← Tag.met_eq_true_iff, ← Tag.holds_eq_true_iff]
  unfold patchTagHolds
  cases hoperator : t.operator with
  | grant => simp [Tag.met, Tag.isPlayerCondition, hoperator, Operator.isPlayerCondition]
  | consume => simp [Tag.met, Tag.isPlayerCondition, hoperator, Operator.isPlayerCondition]
  | baseRequire => simp [Tag.met, Tag.isPlayerCondition, hoperator, Operator.isPlayerCondition]
  | baseForbid => simp [Tag.met, Tag.isPlayerCondition, hoperator, Operator.isPlayerCondition]
  | _ => simp

theorem patchApplies_iff : patchApplies base counts p = true ↔ Applies base counts p := by
  simp only [patchApplies, Bool.and_eq_true, Bool.not_eq_true', List.all_eq_true, PatchOf.isFor_iff,
    patchTokenHolds, patchTagHolds_iff]
  constructor
  · rintro ⟨⟨hattached, hplain⟩, htokens⟩
    exact ⟨hattached, hplain, fun token h => (htokens token h).1,
      fun token h => (htokens token h).2.1, fun token h => (htokens token h).2.2⟩
  · intro h
    exact ⟨⟨h.attached, h.notPatch⟩, fun token htoken =>
      ⟨h.satisfied token htoken, h.present token htoken, h.absent token htoken⟩⟩

/-! ## What they leave -/

/-- A patch brings a text that stands in place of the text of the step. -/
def PatchOf.Replaces (p : StepPatch) (text : String) : Prop :=
  p.text.instead = some text ∧ text ≠ ""

/-- A step as a row of patches leaves it. -/
structure IsLeftBy (separator : String) (base : Step) (applied : List StepPatch) (s : Step) :
    Prop where
  id : s.id = base.id
  log : s.log = base.log
  source : s.source = base.source
  tags : s.tags = base.tags ++ applied.flatMap fun p => p.tags.filter isMutationToken
  options : s.options = base.options ++ applied.flatMap (·.options)
  vars : ∀ name, Table.get? name s.vars =
    (applied.filterMap fun p => Table.get? name (Table.ofPairs p.vars)).getLast?.or
      (Table.get? name base.vars)
  replaced : ∀ earlier p later text, applied = earlier ++ p :: later → p.Replaces text →
    (∀ q ∈ later, ∀ t, ¬ q.Replaces t) → s.text = text
  joined : (∀ p ∈ applied, ∀ t, ¬ p.Replaces t) →
    s.text = Text.joined separator ((applied.filterMap (·.text.before)).filter (· ≠ "") ++
      base.text :: (applied.filterMap (·.text.after)).filter (· ≠ ""))

theorem properText?_eq_some_iff {t : String} : properText? text = some t ↔ text = t ∧ t ≠ "" := by
  unfold properText?
  simp only [String.isEmpty_iff]
  split
  · next hempty =>
      constructor
      · intro hnone
        contradiction
      · rintro ⟨rfl, hne⟩
        exact absurd hempty hne
  · next hproper =>
      rw [Option.some.injEq]
      constructor
      · rintro rfl
        exact ⟨rfl, hproper⟩
      · exact And.left

theorem replaces_iff : p.Replaces text ↔ p.text.instead.bind properText? = some text := by
  simp only [PatchOf.Replaces, Option.bind_eq_some_iff, properText?_eq_some_iff]
  constructor
  · rintro ⟨hinstead, hne⟩
    exact ⟨text, hinstead, rfl, hne⟩
  · rintro ⟨t, hinstead, rfl, hne⟩
    exact ⟨hinstead, hne⟩

/-- Of the pieces of a kind those count that are not empty. -/
theorem filterMap_bind_properText? (f : StepPatch → Option String) (ps : List StepPatch) :
    (ps.filterMap fun p => (f p).bind properText?) = (ps.filterMap f).filter (· ≠ "") := by
  induction ps with
  | nil => rfl
  | cons p ps ih =>
      cases hpiece : f p with
      | none => simp [hpiece, ih]
      | some t =>
          by_cases hempty : t = ""
          · simp [hpiece, ih, hempty, properText?]
          · simp [hpiece, ih, hempty, properText?]

/-- The replacements that a row of patches brings. -/
theorem replacements_eq_nil (h : ∀ p ∈ applied, ∀ t, ¬ p.Replaces t) :
    (applied.filterMap fun p => p.text.instead.bind properText?) = [] := by
  rw [List.filterMap_eq_nil_iff]
  intro p hp
  rw [Option.eq_none_iff_forall_ne_some]
  intro t ht
  exact h p hp t (replaces_iff.mpr ht)

theorem composedText_of_replaces {earlier later : List StepPatch} (hp : p.Replaces text)
    (hlater : ∀ q ∈ later, ∀ t, ¬ q.Replaces t) (own : String) :
    composedText separator (earlier ++ p :: later) own = text := by
  have hlast : (((earlier ++ p :: later).map (·.text)).filterMap fun c =>
      c.instead.bind properText?).getLast? = some text := by
    rw [List.filterMap_map]
    simp only [Function.comp_def, List.filterMap_append, List.filterMap_cons,
      replaces_iff.mp hp, replacements_eq_nil hlater, List.getLast?_concat]
  rw [composedText, textPieces, hlast]
  rfl

theorem composedText_of_not_replaces (h : ∀ p ∈ applied, ∀ t, ¬ p.Replaces t) (own : String) :
    composedText separator applied own =
      Text.joined separator ((applied.filterMap (·.text.before)).filter (· ≠ "") ++
        own :: (applied.filterMap (·.text.after)).filter (· ≠ "")) := by
  have hnone : ((applied.map (·.text)).filterMap fun c => c.instead.bind properText?) = [] := by
    rw [List.filterMap_map]
    exact replacements_eq_nil h
  rw [composedText, textPieces, hnone]
  simp only [List.getLast?_nil, List.filterMap_map, Function.comp_def, filterMap_bind_properText?,
    List.append_assoc, List.singleton_append]

/-- For every name the last patch counts that declares it, and after the patches the step. -/
theorem get?_foldl_update (name : String) (vars : Declarations) (ps : List StepPatch) :
    Table.get? name (ps.foldl (fun vars p => vars.update p.vars) vars) =
      (ps.filterMap fun p => Table.get? name (Table.ofPairs p.vars)).getLast?.or
        (Table.get? name vars) := by
  induction ps using List.reverseRecOn with
  | nil => rfl
  | append_singleton ps p ih =>
      rw [List.foldl_append, List.foldl_cons, List.foldl_nil, Table.get?_update, ih,
        List.filterMap_append]
      cases hown : Table.get? name (Table.ofPairs p.vars) with
      | none => simp [hown]
      | some v => simp [hown]

theorem compose_eq (separator : String) (base : Step) (patches : List StepPatch)
    (counts : Counts) :
    compose separator base patches counts =
      withPatches base (composedText separator (applicable base patches counts) base.text)
        (applicable base patches counts) := by
  unfold compose
  split
  · next hnone => simp [hnone, withPatches, composedText, textPieces, Text.joined]
  · rfl

theorem isLeftBy_withPatches (separator : String) (base : Step) (applied : List StepPatch) :
    IsLeftBy separator base applied
      (withPatches base (composedText separator applied base.text) applied) where
  id := rfl
  log := rfl
  source := rfl
  tags := by simp only [withPatches, mutationTokens_eq]
  options := rfl
  vars := fun name => get?_foldl_update name base.vars applied
  replaced := by
    rintro earlier p later text rfl hp hlater
    exact composedText_of_replaces hp hlater base.text
  joined := fun h => composedText_of_not_replaces h base.text

theorem isLeftBy_compose : IsLeftBy separator base (applicable base patches counts)
    (compose separator base patches counts) := by
  rw [compose_eq]
  exact isLeftBy_withPatches separator base _

/-! ## What is not changed -/

namespace IsLeftBy

/-- A patched step has its own tags, and after them grants and consumptions only. -/
theorem exists_tags_eq (h : IsLeftBy separator base applied s) :
    ∃ more, s.tags = base.tags ++ more ∧ ∀ token ∈ more, isMutationToken token = true := by
  refine ⟨_, h.tags, ?_⟩
  intro token htoken
  obtain ⟨p, -, hp⟩ := List.mem_flatMap.mp htoken
  exact (List.mem_filter.mp hp).2

theorem eligible (h : IsLeftBy separator base applied s) (counts : Counts) :
    eligible counts s = eligible counts base := by
  obtain ⟨more, htags, hmore⟩ := h.exists_tags_eq
  have hholds : more.all (conditionHolds everyCondition counts) = true := by
    rw [List.all_eq_true]
    intro token htoken
    exact conditionHolds_of_isMutationToken (hmore token htoken) everyCondition counts
  rw [Questline.eligible, Questline.eligible, conditionsMet, conditionsMet, htags, List.all_append,
    hholds, Bool.and_true]

theorem score (h : IsLeftBy separator base applied s) (weight : Int) (counts : Counts) :
    score weight counts s = score weight counts base := by
  obtain ⟨more, htags, hmore⟩ := h.exists_tags_eq
  have hnothing : total (more.map (tokenScore weight counts)) = 0 := by
    clear htags
    induction more with
    | nil => rfl
    | cons token more ih =>
        rw [List.forall_mem_cons] at hmore
        rw [List.map_cons, total, tokenScore_of_isMutationToken hmore.1, ih hmore.2, Int.zero_add]
  rw [Questline.score, Questline.score, htags, List.map_append, total_append, hnothing,
    Int.add_zero]

theorem analyzeStep (h : IsLeftBy separator base applied s) (weight : Int) (counts : Counts) :
    analyzeStep weight counts s = analyzeStep weight counts base := by
  obtain ⟨more, htags, hmore⟩ := h.exists_tags_eq
  have hnone : more.filterMap (analyzeToken counts) = [] := by
    rw [List.filterMap_eq_nil_iff]
    intro token htoken
    exact analyzeToken_of_isMutationToken (hmore token htoken) counts
  have htokens : s.tags.filterMap (analyzeToken counts) =
      base.tags.filterMap (analyzeToken counts) := by
    rw [htags, List.filterMap_append, hnone, List.append_nil]
  rw [Questline.analyzeStep, Questline.analyzeStep, htokens, h.score, h.id]

/-- What patches add to the tags can always be read. -/
theorem isReadable (h : IsLeftBy separator base applied s) (htoken : token ∈ s.tags)
    (hbase : token ∉ base.tags) : Tag.isReadable token = true := by
  obtain ⟨more, htags, hmore⟩ := h.exists_tags_eq
  rw [htags, List.mem_append] at htoken
  exact isReadable_of_isMutationToken (hmore token (htoken.resolve_left hbase))

end IsLeftBy

/-! ## Patching -/

variable {config : Config} {seeker : Seeker}

theorem patch_eq_error_iff {f : Fault} :
    patch config base patches seeker = .error f ↔
      seeker.counts? config = .error f ∨ ∃ counts, seeker.counts? config = .ok counts ∧
        f = .unreadableNumber ∧
        ∃ token ∈ tokensTested base patches counts, Tag.isReadable token = false :=
  told_eq_error_iff

theorem patch_of_readable (hcounts : seeker.counts? config = .ok counts)
    (hreadable : ∀ token ∈ tokensTested base patches counts, Tag.isReadable token = true) :
    patch config base patches seeker =
      .ok (compose config.patchTextSeparator base patches counts) :=
  told_of_readable hcounts hreadable

/-- A draft of texts is patched as the step is, and stopped by what stops the step. -/
theorem compose_draftOf (config : Config) (counts : Counts) (patches : List StepPatch)
    (hbase : ∀ token ∈ base.tags, Tag.isReadable token = true) :
    Draft.compose config.patchTextSeparator (draftOf base) (patches.map draftOfPatch) counts =
      (patch config base patches (.holding counts)).map draftOf := by
  have happlicable := applicable_draftOf base patches counts
  rw [← all_tokensTested hbase] at happlicable
  cases hall : (tokensTested base patches counts).all Tag.isReadable with
  | false =>
      have hstop : patch config base patches (.holding counts) = .error .unreadableNumber :=
        patch_eq_error_iff.mpr (.inr ⟨counts, rfl, rfl, by simpa using hall⟩)
      rw [hstop, Draft.compose, happlicable, hall]
      rfl
  | true =>
      have hpatched : patch config base patches (.holding counts) =
          .ok (compose config.patchTextSeparator base patches counts) :=
        patch_of_readable rfl (List.all_eq_true.mp hall)
      rw [hpatched, Draft.compose, happlicable, hall, compose]
      cases applicable base patches counts with
      | nil => rfl
      | cons p ps =>
          have hjoined := joined_draftOf config.patchTextSeparator base (p :: ps)
          have hleft := withPatches_map Json.str base
            (composedText config.patchTextSeparator (p :: ps) base.text) (p :: ps)
          change (Draft.joined config.patchTextSeparator _ >>= fun text =>
            pure (withPatches (draftOf base) text ((p :: ps).map draftOfPatch))) = _
          rw [hjoined]
          exact congrArg Except.ok hleft

/-- A patch applies or not whatever other patches there are.  Patching that nothing stops gives a
step as the row of patches leaves it that apply, and in no counts does this step differ from the
one before by its conditions, its score or its analysis.  It is stopped by a level that is too high
and by a token of too many digits alone.  A draft of texts is patched as the step is. -/
theorem patch_leaves (config : Config) (base : Step) (seeker : Seeker) :
    (∀ counts p, patchApplies base counts p = true ↔ Applies base counts p) ∧
    (∀ patches f, patch config base patches seeker = .error f ↔
      seeker.counts? config = .error f ∨ ∃ counts, seeker.counts? config = .ok counts ∧
        f = .unreadableNumber ∧
        ∃ token ∈ tokensTested base patches counts, Tag.isReadable token = false) ∧
    (∀ patches counts, (∀ token ∈ base.tags, Tag.isReadable token = true) →
      Draft.compose config.patchTextSeparator (draftOf base) (patches.map draftOfPatch) counts =
        (patch config base patches (.holding counts)).map draftOf) ∧
    ∀ patches counts, seeker.counts? config = .ok counts →
      (∀ token ∈ tokensTested base patches counts, Tag.isReadable token = true) →
      ∃ s, patch config base patches seeker = .ok s ∧
        IsLeftBy config.patchTextSeparator base (patches.filter (patchApplies base counts)) s ∧
        (∀ token ∈ s.tags, token ∉ base.tags → Tag.isReadable token = true) ∧
        ∀ others, eligible others s = eligible others base ∧
          ∀ weight, score weight others s = score weight others base ∧
            analyzeStep weight others s = analyzeStep weight others base := by
  refine ⟨?_, ?_, ?_, ?_⟩
  · intro counts p
    exact patchApplies_iff
  · intro patches f
    exact patch_eq_error_iff
  · intro patches counts hbase
    exact compose_draftOf config counts patches hbase
  intro patches counts hcounts hreadable
  have hleft : IsLeftBy config.patchTextSeparator base (applicable base patches counts)
      (compose config.patchTextSeparator base patches counts) := isLeftBy_compose
  refine ⟨_, patch_of_readable hcounts hreadable, hleft, ?_, ?_⟩
  · intro token htoken hbase
    exact hleft.isReadable htoken hbase
  · intro others
    refine ⟨hleft.eligible others, ?_⟩
    intro weight
    exact ⟨hleft.score weight others, hleft.analyzeStep weight others⟩

/-- Of two patches for a gate one asks that the gate has been visited, the other for a lantern. -/
theorem patch_leaves_of_gate :
    let config : Config := { patchTextSeparator := " " }
    let gate : Step := { id := "Gate", tags := ["visited"], text := "A gate." }
    let guarded : StepPatch :=
      { target := .str "Gate", tags := ["^visited", "+seen"], text := { after := some "A guard." } }
    let lit : StepPatch :=
      { target := .str "Gate", tags := ["lantern"], text := { instead := some "A lit gate." } }
    (∀ token ∈ gate.tags, Tag.isReadable token = true) ∧
      (∀ token ∈ tokensTested gate [guarded, lit] fun _ => 0, Tag.isReadable token = true) ∧
      ∃ s, patch config gate [guarded, lit] (.holding fun _ => 0) = .ok s ∧
        Draft.compose " " (draftOf gate) ([guarded, lit].map draftOfPatch) (fun _ => 0) =
          .ok (draftOf s) ∧
        s.tags = ["visited", "+seen"] ∧ s.text = "A gate. A guard." := by
  intro config gate guarded lit
  have hgate : ∀ token ∈ gate.tags, Tag.isReadable token = true := by
    decide +kernel
  have hreadable : ∀ token ∈ tokensTested gate [guarded, lit] fun _ => 0,
      Tag.isReadable token = true := by
    decide +kernel
  have happlied : [guarded, lit].filter (patchApplies gate fun _ => 0) = [guarded] := by
    decide +kernel
  have hkeeps : ∀ p ∈ [guarded], ∀ t, ¬ p.Replaces t := by
    intro p hp t ht
    obtain rfl := List.mem_singleton.mp hp
    exact Option.some_ne_none t ht.1.symm
  obtain ⟨-, -, hdraft, hstep⟩ := patch_leaves config gate (.holding fun _ => 0)
  obtain ⟨s, hs, hleft, -, -⟩ := hstep _ _ rfl hreadable
  have hcomposed := hdraft [guarded, lit] (fun _ => 0) hgate
  rw [hs] at hcomposed
  rw [happlied] at hleft
  refine ⟨hgate, hreadable, s, hs, hcomposed, ?_, ?_⟩
  · rw [hleft.tags]
    decide +kernel
  · rw [hleft.joined hkeeps]
    decide +kernel

/-- A patch that asks for coins in a number of too many digits stops the patching. -/
theorem patch_can_stop :
    let coins := Tag.coinsOfOnes (Text.digitLimit + 1)
    let gate : Step := { id := "Gate", text := "A gate." }
    let guarded : StepPatch := { target := .str "Gate", tags := [coins] }
    patch {} gate [guarded] (.holding fun _ => 0) = .error .unreadableNumber := by
  intro coins gate guarded
  have hcoins : Tag.isReadable coins = false := Tag.isReadable_too_many_ones
  refine patch_eq_error_iff.mpr (.inr ⟨_, rfl, rfl, coins, ?_, hcoins⟩)
  have htested : guarded ∈ patchesTested gate [guarded] :=
    List.mem_filter.mpr ⟨List.mem_cons_self, by decide⟩
  refine List.mem_flatMap.mpr ⟨guarded, htested, ?_⟩
  have hown : coins ∈ readInTurn (patchTokenHolds gate fun _ => 0) guarded.tags :=
    List.mem_cons_self
  unfold tokensToTest
  dsimp only
  split
  · exact List.mem_append_left _ hown
  · exact hown

end Questline
