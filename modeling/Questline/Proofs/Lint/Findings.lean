import Questline.Proofs.Content.Targets
import Questline.Proofs.Lint.Entries
import Questline.Proofs.Text.Sorting

/-!
# What the checks find

Nothing stops the checks once every entry can be read.  The code of a finding
tells which of them has found it, and each check is described by its findings.
-/

namespace Questline.Lint

open Subject

variable {s : Subject} {e : Entry} {f : Finding} {fs : List Finding} {p : Problem}

/-! ## Nothing stops the checks -/

def Subject.Readable (s : Subject) : Prop :=
  ∀ e ∈ s.entries, ∃ tokens os, e.Reads s.presets tokens os

theorem exists_hasQuestGate {tokens : List String}
    (h : ∀ token ∈ tokens, Tag.read token = .ok (Tag.ofToken token)) :
    ∃ b, hasQuestGate tokens = .ok b := by
  induction tokens with
  | nil => exact ⟨false, rfl⟩
  | cons token tokens ih =>
      rw [List.forall_mem_cons] at h
      simp only [hasQuestGate, h.1, bind, Except.bind]
      split
      · exact ⟨true, rfl⟩
      · exact ih h.2

theorem Subject.Readable.exists_questGates (h : s.Readable) :
    ∃ gates, s.questGates = .ok gates := by
  rw [questGates, exists_bind_eq_ok_iff]
  have hgates : ∃ gates, s.entries.mapM s.questGate = .ok gates := by
    rw [exists_mapM_eq_ok_iff]
    intro e he
    obtain ⟨tokens, -, htokens, hreadable, -⟩ := h e he
    obtain ⟨b, hb⟩ := exists_hasQuestGate hreadable
    unfold questGate
    split
    · exact ⟨[], rfl⟩
    · simp only [htokens, hb, bind, Except.bind]
      split
      · exact ⟨[], rfl⟩
      · exact ⟨_, rfl⟩
  obtain ⟨gates, hgates⟩ := hgates
  exact ⟨gates, hgates, _, rfl⟩

theorem Subject.Readable.exists_tagSpelling (h : s.Readable) :
    ∃ spelling, s.tagSpelling = .ok spelling := by
  rw [tagSpelling, exists_bind_eq_ok_iff]
  have hnames : ∃ names, s.entries.mapM tagNames = .ok names := by
    rw [exists_mapM_eq_ok_iff]
    intro e he
    obtain ⟨tokens, -, htokens, hreadable, -⟩ := h e he
    rw [tagNames, exists_bind_eq_ok_iff]
    refine ⟨tokens, htokens, exists_mapM_eq_ok_iff.mpr fun token htoken => ?_⟩
    exact ⟨_, by rw [hreadable token htoken]; rfl⟩
  obtain ⟨names, hnames⟩ := hnames
  exact ⟨names, hnames, _, rfl⟩

theorem targets_map {α β : Type} (f : α → β) (o : OptionOf α) :
    (o.map f).targets = o.targets.map f := by
  simp only [OptionOf.targets, OptionOf.map]
  cases o.passTarget <;> cases o.failTarget <;> rfl

theorem mem_targets_iff {t : Json} :
    t ∈ s.targets ↔ ∃ e ∈ s.entries, ∃ a ∈ e.options s.presets, t ∈ a.targets := by
  simp only [targets, List.mem_flatMap, OptionOf.targets]

theorem Subject.Readable.not_isContainer (h : s.Readable) :
    s.targets.any Json.isContainer = false := by
  rw [List.any_eq_false]
  intro t ht
  obtain ⟨e, he, a, ha, ht⟩ := mem_targets_iff.mp ht
  obtain ⟨-, os, -, -, hoptions⟩ := h e he
  rw [hoptions, List.mem_map] at ha
  obtain ⟨o, -, rfl⟩ := ha
  rw [targets_map, List.mem_map] at ht
  obtain ⟨u, -, rfl⟩ := ht
  exact Bool.false_ne_true

theorem Subject.Readable.exists_findings (h : s.Readable) : ∃ fs, findings s = .ok fs := by
  obtain ⟨gates, hgates⟩ := h.exists_questGates
  obtain ⟨spelling, hspelling⟩ := h.exists_tagSpelling
  simp only [findings, h.not_isContainer, hgates, hspelling, Bool.false_eq_true, if_false, bind,
    Except.bind, pure, Except.pure, Except.ok.injEq, exists_eq']

/-! ## Which check has found a finding -/

/-- The two ways on from an option. -/
inductive Way where
  | pass
  | fail

namespace Way

def target? {α : Type} : Way → OptionOf α → Option α
  | pass => (·.passTarget)
  | fail => (·.failTarget)

/-- What is said of a target that is the id of no step. -/
def problem : Way → String → String → Problem
  | pass => .passTargetBroken
  | fail => .failTargetBroken

def code : Way → String
  | pass => "broken_pass_target"
  | fail => "broken_fail_target"

theorem code_problem (w : Way) (label target : String) :
    (w.problem label target).code = w.code := by
  cases w <;> rfl

end Way

inductive Check where
  | targets
  | undefinedVariables
  | unusedVariables
  | unreferencedSteps
  | questGates
  | tagSpelling
  | patchTargets
deriving DecidableEq

/-- The check whose findings have the code. -/
def Check.ofCode? : String → Option Check
  | "broken_pass_target" => some .targets
  | "broken_fail_target" => some .targets
  | "variable_from_other_step" => some .undefinedVariables
  | "undefined_variable" => some .undefinedVariables
  | "unused_variable" => some .unusedVariables
  | "orphan_step" => some .unreferencedSteps
  | "missing_quest_gate" => some .questGates
  | "tag_typo_candidate" => some .tagSpelling
  | "patch_missing_target" => some .patchTargets
  | "patch_targets_patch" => some .patchTargets
  | "patch_unknown_target" => some .patchTargets
  | _ => none

def Subject.FoundBy (s : Subject) (f : Finding) : Check → Prop
  | .targets => f ∈ s.brokenTargets
  | .undefinedVariables => f ∈ s.undefinedVariables
  | .unusedVariables => f ∈ s.unusedVariables
  | .unreferencedSteps => f ∈ s.unreferencedSteps
  | .questGates => ∃ gates, s.questGates = .ok gates ∧ f ∈ gates
  | .tagSpelling => ∃ spelling, s.tagSpelling = .ok spelling ∧ f ∈ spelling
  | .patchTargets => f ∈ s.patchTargets

theorem mem_findings_iff (h : findings s = .ok fs) : f ∈ fs ↔ ∃ k, s.FoundBy f k := by
  unfold findings at h
  split at h
  · contradiction
  · simp only [bind_eq_ok_iff, pure, Except.pure, Except.ok.injEq] at h
    obtain ⟨gates, hgates, spelling, hspelling, rfl⟩ := h
    simp only [List.mem_append]
    constructor
    · rintro ((((((h | h) | h) | h) | h) | h) | h)
      · exact ⟨.targets, h⟩
      · exact ⟨.undefinedVariables, h⟩
      · exact ⟨.unusedVariables, h⟩
      · exact ⟨.unreferencedSteps, h⟩
      · exact ⟨.questGates, gates, hgates, h⟩
      · exact ⟨.tagSpelling, spelling, hspelling, h⟩
      · exact ⟨.patchTargets, h⟩
    · rintro ⟨k, h⟩
      cases k with
      | questGates =>
          obtain ⟨gates', hgates', h⟩ := h
          obtain rfl := Except.ok.inj (hgates.symm.trans hgates')
          simp [h]
      | tagSpelling =>
          obtain ⟨spelling', hspelling', h⟩ := h
          obtain rfl := Except.ok.inj (hspelling.symm.trans hspelling')
          simp [h]
      | targets => simp [show f ∈ s.brokenTargets from h]
      | undefinedVariables => simp [show f ∈ s.undefinedVariables from h]
      | unusedVariables => simp [show f ∈ s.unusedVariables from h]
      | unreferencedSteps => simp [show f ∈ s.unreferencedSteps from h]
      | patchTargets => simp [show f ∈ s.patchTargets from h]

theorem mem_ranked_iff : f ∈ ranked fs ↔ f ∈ fs := by
  simp only [ranked, List.mem_flatMap, List.mem_filter, decide_eq_true_eq]
  constructor
  · rintro ⟨_, -, hf, -⟩
    exact hf
  · intro hf
    refine ⟨f.severity, ?_, hf, rfl⟩
    cases f.severity <;> decide

theorem mem_brokenTarget_iff {q : String → Problem} {target : Option Json} :
    p ∈ s.brokenTarget q target ↔
      ∃ t, target = some t ∧ s.leadsToStep t = false ∧ p = q t.describe := by
  unfold brokenTarget
  cases target with
  | none => simp
  | some t => cases hleads : s.leadsToStep t <;> simp [hleads]

theorem mem_brokenTargets_iff : f ∈ s.brokenTargets ↔
    ∃ e ∈ s.entries, ∃ j a, (e.options s.presets)[j]? = some a ∧ ∃ w : Way, ∃ t,
      w.target? a = some t ∧ s.leadsToStep t = false ∧
        f = e.optionFinding j (w.problem a.label t.describe) := by
  have hways : ∀ (a : AuthoredOption) (p : Problem),
      p ∈ s.brokenTarget (.passTargetBroken a.label) a.passTarget ++
          s.brokenTarget (.failTargetBroken a.label) a.failTarget ↔
        ∃ w : Way, ∃ t, w.target? a = some t ∧ s.leadsToStep t = false ∧
          p = w.problem a.label t.describe := by
    intro a p
    rw [List.mem_append, mem_brokenTarget_iff, mem_brokenTarget_iff]
    constructor
    · rintro (h | h)
      · exact ⟨.pass, h⟩
      · exact ⟨.fail, h⟩
    · rintro ⟨w, h⟩
      cases w with
      | pass => exact .inl h
      | fail => exact .inr h
  simp only [brokenTargets, List.mem_flatMap, Prod.exists, List.mk_mem_zipIdx_iff_getElem?,
    List.mem_map, hways, @eq_comm Finding f]
  constructor
  · rintro ⟨e, he, a, j, ha, p, ⟨w, t, ht, hleads, rfl⟩, hf⟩
    exact ⟨e, he, j, a, ha, w, t, ht, hleads, hf⟩
  · rintro ⟨e, he, j, a, ha, w, t, ht, hleads, hf⟩
    exact ⟨e, he, a, j, ha, _, ⟨w, t, ht, hleads, rfl⟩, hf⟩

theorem mem_undefinedVariables_iff : f ∈ s.undefinedVariables ↔
    ∃ e ∈ s.entries, ∃ name ∈ firstOfBase [] (e.used s.presets), isKnown e name = false ∧
      f = e.finding (s.undeclared e name) := by
  simp only [undefinedVariables, List.mem_flatMap, List.mem_map, List.mem_filter, and_assoc,
    Bool.not_eq_true', @eq_comm Finding f]

theorem mem_unusedVariables_iff : f ∈ s.unusedVariables ↔
    ∃ e ∈ s.entries, ∃ name ∈ e.declared, (∀ n ∈ e.used s.presets, baseName n ≠ name) ∧
      f = e.finding (.variableUnused name) := by
  simp only [unusedVariables, List.mem_flatMap, List.mem_map, (Text.perm_sortTexts _).mem_iff,
    List.mem_filter, List.contains_eq_mem, Bool.not_eq_true', decide_eq_false_iff_not, not_exists,
    not_and, and_assoc, ne_eq, @eq_comm Finding f]

theorem mem_unreferencedSteps_iff : f ∈ s.unreferencedSteps ↔
    ∃ e ∈ s.entries, e.isPatch = false ∧ s.isPlace e.id = false ∧ s.isReferenced e.id = false ∧
      f = e.finding (.stepUnreferenced e.id) := by
  simp only [unreferencedSteps, List.mem_map, List.mem_filter, Bool.and_eq_true,
    Bool.not_eq_true', and_assoc, @eq_comm Finding f]

theorem exists_of_mem_questGates {gates : List Finding} (hgates : s.questGates = .ok gates)
    (h : f ∈ gates) : ∃ id, f.problem = .questGateMissing id := by
  rw [questGates, bind_eq_ok_iff] at hgates
  obtain ⟨found, hfound, hgates⟩ := hgates
  obtain rfl := Except.ok.inj hgates
  obtain ⟨fs, hfs, hf⟩ := List.mem_flatten.mp h
  obtain ⟨e, -, he⟩ := exists_mem_of_forall₂ (forall₂_of_mapM_eq_ok hfound) hfs
  unfold questGate at he
  split at he
  · obtain rfl := Except.ok.inj he
    contradiction
  · simp only [bind_eq_ok_iff] at he
    obtain ⟨tokens, -, gated, -, he⟩ := he
    split at he <;> obtain rfl := Except.ok.inj he
    · contradiction
    · exact ⟨e.id, by rw [List.mem_singleton.mp hf]; rfl⟩

theorem exists_of_mem_tagSpelling {spelling : List Finding}
    (hspelling : s.tagSpelling = .ok spelling) (h : f ∈ spelling) :
    ∃ tag other, f.problem = .tagMisspelt tag other := by
  rw [tagSpelling, bind_eq_ok_iff] at hspelling
  obtain ⟨uses, -, hspelling⟩ := hspelling
  obtain rfl := Except.ok.inj hspelling
  simp only [misspellings, List.mem_filterMap, Option.map_eq_some_iff] at h
  obtain ⟨⟨tag, e⟩, -, other, -, rfl⟩ := h
  exact ⟨tag, other, rfl⟩

theorem ofCode?_of_foundBy {k : Check} (h : s.FoundBy f k) :
    Check.ofCode? f.problem.code = some k := by
  cases k with
  | targets =>
      obtain ⟨e, -, j, a, -, w, t, -, -, rfl⟩ := mem_brokenTargets_iff.mp h
      cases w <;> rfl
  | undefinedVariables =>
      obtain ⟨e, -, name, -, -, rfl⟩ := mem_undefinedVariables_iff.mp h
      simp only [Entry.finding, undeclared]
      split
      · split <;> rfl
      · rfl
  | unusedVariables =>
      obtain ⟨e, -, name, -, -, rfl⟩ := mem_unusedVariables_iff.mp h
      rfl
  | unreferencedSteps =>
      obtain ⟨e, -, -, -, -, rfl⟩ := mem_unreferencedSteps_iff.mp h
      rfl
  | questGates =>
      obtain ⟨gates, hgates, h⟩ := h
      obtain ⟨id, hp⟩ := exists_of_mem_questGates hgates h
      rw [hp]
      rfl
  | tagSpelling =>
      obtain ⟨spelling, hspelling, h⟩ := h
      obtain ⟨tag, other, hp⟩ := exists_of_mem_tagSpelling hspelling h
      rw [hp]
      rfl
  | patchTargets =>
      simp only [FoundBy, patchTargets, List.mem_filterMap, Option.map_eq_some_iff] at h
      obtain ⟨e, -, p, hp, rfl⟩ := h
      unfold patchProblem? at hp
      split at hp
      · obtain rfl := Option.some.inj hp
        rfl
      · split at hp
        · obtain rfl := Option.some.inj hp
          rfl
        · split at hp
          · contradiction
          · obtain rfl := Option.some.inj hp
            rfl

/-! ## Linting -/

variable {payload : Payload} {locations : Option (Table Json)}

/-- The locations that count: the ones given, or else those of the payload. -/
def locationsFor (payload : Payload) (locations : Option (Table Json)) : Table Json :=
  locations.getD (((payload.value.memberOrNull "locations").asObject?).getD [])

/-- No location has a list or an object for its name. -/
def AreNamed (locations : Table Json) : Prop := ∀ p ∈ locations, p.2.isContainer = false

instance (locations : Table Json) : Decidable (AreNamed locations) :=
  inferInstanceAs (Decidable (∀ p ∈ locations, p.2.isContainer = false))

def placeNames (locations : Table Json) : List String :=
  locations.values.filterMap Json.asText? ++ locations.keys

theorem placesOf_eq (locations : Table Json) :
    placesOf locations =
      if AreNamed locations then .ok (placeNames locations) else .error .wrongKind := by
  unfold placesOf
  by_cases hnamed : AreNamed locations
  · have hnone : (locations.any fun p => p.2.isContainer) = false := by
      rw [List.any_eq_false]
      exact fun p hp => by simp [hnamed p hp]
    rw [if_pos hnamed, hnone]
    rfl
  · have hsome : (locations.any fun p => p.2.isContainer) = true := by
      rw [AreNamed] at hnamed
      push Not at hnamed
      obtain ⟨p, hp, hcontainer⟩ := hnamed
      exact List.any_eq_true.mpr ⟨p, hp, by simpa using hcontainer⟩
    rw [if_neg hnamed, hsome]
    rfl

/-- What is looked at in a payload without errors. -/
def subjectOf (payload : Payload) (locations : Option (Table Json)) : Subject where
  entries := entriesIn payload
  presets := payload.presets
  places := placeNames (locationsFor payload locations)

theorem lint_eq (h : payload.Checked) (locations : Option (Table Json)) :
    lint payload locations =
      if AreNamed (locationsFor payload locations) then
        (findings (subjectOf payload locations)).map ranked
      else .error .wrongKind := by
  have hplaces := placesOf_eq (locationsFor payload locations)
  split
  · next hnamed =>
      rw [if_pos hnamed, locationsFor] at hplaces
      simp only [lint, subjectOf, locationsFor, h.isObject, entriesOf_eq h, hplaces, Bool.not_true,
        Bool.false_eq_true, if_false, bind, Except.bind]
      cases findings ⟨entriesIn payload, payload.presets, _⟩ <;> rfl
  · next hunnamed =>
      rw [if_neg hunnamed, locationsFor] at hplaces
      simp only [lint, h.isObject, entriesOf_eq h, hplaces, Bool.not_true, Bool.false_eq_true,
        if_false, bind, Except.bind]

theorem readable_subjectOf (h : payload.Checked) (locations : Option (Table Json)) :
    (subjectOf payload locations).Readable :=
  fun _ he => exists_reads h he

/-- A payload without errors is linted, unless a location has no name. -/
theorem exists_lint_iff (h : payload.Checked) :
    (∃ fs, lint payload locations = .ok fs) ↔ AreNamed (locationsFor payload locations) := by
  rw [lint_eq h]
  split
  · next hnamed =>
      obtain ⟨fs, hfs⟩ := (readable_subjectOf h locations).exists_findings
      simp [hfs, hnamed, Except.map]
  · next hnamed => simp [hnamed]

theorem mem_lint_iff (h : payload.Checked) (hlint : lint payload locations = .ok fs) :
    f ∈ fs ↔ ∃ k, (subjectOf payload locations).FoundBy f k := by
  rw [lint_eq h] at hlint
  split at hlint
  · obtain ⟨found, hfound⟩ := (readable_subjectOf h locations).exists_findings
    rw [hfound] at hlint
    obtain rfl := Except.ok.inj hlint
    rw [mem_ranked_iff, mem_findings_iff hfound]
  · contradiction

/-- A finding with the code stands at the entry, or at an option of it. -/
def Reports (fs : List Finding) (code : String) (e : Entry) (option : Option Nat) : Prop :=
  ∃ f ∈ fs, f.problem.code = code ∧ f.stepIndex = some e.index ∧ f.optionIndex = option

theorem reports_iff (h : payload.Checked) (hlint : lint payload locations = .ok fs) {code : String}
    {k : Check} (hcode : Check.ofCode? code = some k) {option : Option Nat} :
    Reports fs code e option ↔ ∃ f, (subjectOf payload locations).FoundBy f k ∧
      f.problem.code = code ∧ f.stepIndex = some e.index ∧ f.optionIndex = option := by
  constructor
  · rintro ⟨f, hf, rfl, hplace⟩
    obtain ⟨k', hfound⟩ := (mem_lint_iff h hlint).mp hf
    obtain rfl := Option.some.inj (hcode.symm.trans (ofCode?_of_foundBy hfound))
    exact ⟨f, hfound, rfl, hplace⟩
  · rintro ⟨f, hfound, hplace⟩
    exact ⟨f, (mem_lint_iff h hlint).mpr ⟨k, hfound⟩, hplace⟩

end Questline.Lint
