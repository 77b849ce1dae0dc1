import Questline.Proofs.Content.Naming
import Questline.Proofs.Lint.Findings

/-!
# Targets as the linter takes them

A target that is looked up by the linter has to be the id of a step to the
letter.  The engine takes white space off it and does not mind the case of
letters.  The two agree on targets that are spelled as the ids are.
-/

namespace Questline

variable {source : Option String} {payload : Payload} {c : Content} {t : String}
  {locations : Option (Table Json)}

/-- The targets of all options of all steps and patches. -/
def Content.targets (c : Content) : List String :=
  (c.steps.map (·.options) ++ c.patches.map (·.options)).flatMap fun os =>
    os.flatMap OptionOf.targets

/-- The target has no white space at its ends, and the steps that it leads to have it for their id
to the letter. -/
structure IsSpelledOut (steps : List Step) (t : String) : Prop where
  trimmed : Text.trim t = t
  exact : ∀ s ∈ candidates t steps, s.id = t

theorem IsSpelledOut.candidates_eq_nil_iff (h : IsSpelledOut c.steps t)
    (hbuild : Content.build source payload = .ok c) :
    candidates t c.steps = [] ↔ ∀ s ∈ c.steps, s.id ≠ t := by
  constructor
  · rintro hnil s hs rfl
    have hplain := Content.isPatchId_of_build hbuild hs
    have hmem := (Content.mem_candidates_self_iff hs hplain).mpr h.trimmed
    rw [hnil] at hmem
    contradiction
  · intro hne
    rw [List.eq_nil_iff_forall_not_mem]
    intro s hs
    exact hne s (List.mem_of_mem_filter hs) (h.exact s hs)

namespace Lint

variable {fs : List Finding} {e : Entry} {os : List StepOption}

theorem Way.target?_map {α β : Type} (f : α → β) (w : Way) (o : OptionOf α) :
    w.target? (o.map f) = (w.target? o).map f := by
  cases w <;> rfl

theorem Way.code_injective {w w' : Way} (h : w.code = w'.code) : w = w' := by
  cases w <;> cases w' <;> first | rfl | contradiction

/-- The options of the entries are those of the steps, and then those of the patches. -/
theorem map_options (h : Content.build source payload = .ok c) :
    (stepEntries payload ++ patchEntries payload).map (Entry.options payload.presets) =
      (c.steps.map (·.options) ++ c.patches.map (·.options)).map
        (List.map (OptionOf.map .str)) := by
  rw [List.map_append, List.map_append, List.map_map, List.map_map]
  congr 1
  · rw [← List.forall₂_eq_eq_eq, List.forall₂_map_left_iff, List.forall₂_map_right_iff]
    exact (forall₂_stepEntries h).imp fun _ _ hstep => Entry.options_eq (stepOf_eq_ok hstep).2.2.1
  · rw [← List.forall₂_eq_eq_eq, List.forall₂_map_left_iff, List.forall₂_map_right_iff]
    exact (forall₂_patchEntries h).imp fun _ _ hpatch => Entry.options_eq (patchOf_eq_ok hpatch).2.1

theorem id_eq_of_mem_stepEntries {s : Step} (he : e ∈ stepEntries payload)
    (hs : stepOf payload.presets source e.record = .ok (draftOf s)) : e.id = s.id := by
  have hid := (stepOf_eq_ok hs).1
  rw [memberOrNull_id_of_mem_stepEntries he] at hid
  exact Json.str.inj hid

theorem map_id_stepEntries (h : Content.build source payload = .ok c) :
    (stepEntries payload).map Entry.id = c.steps.map (·.id) := by
  rw [← List.forall₂_eq_eq_eq, List.forall₂_map_left_iff, List.forall₂_map_right_iff]
  exact forall₂_imp_of_mem (forall₂_stepEntries h) fun e he s hs => id_eq_of_mem_stepEntries he hs

theorem str_mem_targets_iff (h : Content.build source payload = .ok c) :
    .str t ∈ (subjectOf payload locations).targets ↔ t ∈ c.targets := by
  have hentries : ∀ e, e ∈ (subjectOf payload locations).entries ↔
      e ∈ stepEntries payload ++ patchEntries payload := by
    intro e
    rw [List.mem_append]
    exact mem_entriesIn_iff
  have hlists : Json.str t ∈ (subjectOf payload locations).targets ↔
      ∃ as ∈ (stepEntries payload ++ patchEntries payload).map (Entry.options payload.presets),
        ∃ a ∈ as, Json.str t ∈ a.targets := by
    rw [mem_targets_iff]
    simp only [hentries, List.mem_map, exists_exists_and_eq_and]
    rfl
  rw [hlists, map_options h]
  simp only [Content.targets, List.mem_map, exists_exists_and_eq_and, targets_map, List.mem_flatMap,
    Json.str.injEq, exists_eq_right]

/-! ## Agreement -/

/-- What is reported of the targets of an entry with some options. -/
structure AgreesOnTargets (fs : List Finding) (steps : List Step) (e : Entry)
    (os : List StepOption) : Prop where
  /-- A target is reported that is not the id of a step to the letter. -/
  reports_iff : ∀ (w : Way) (j : Nat), Reports fs w.code e (some j) ↔
    ∃ o t, os[j]? = some o ∧ w.target? o = some t ∧ ∀ s ∈ steps, s.id ≠ t
  /-- A target that is spelled as the ids are is reported if it leads to no step. -/
  deadEnd_iff : ∀ (w : Way) (j : Nat),
    (∀ o t, os[j]? = some o → w.target? o = some t → IsSpelledOut steps t) →
    (Reports fs w.code e (some j) ↔
      ∃ o t, os[j]? = some o ∧ w.target? o = some t ∧ candidates t steps = [])

/-- What is reported of a step that no target leads to. -/
structure AgreesOnOrphan (fs : List Finding) (c : Content) (isPlace : String → Bool) (e : Entry)
    (s : Step) : Prop where
  reports_iff : Reports fs "orphan_step" e none ↔ isPlace s.id = false ∧ s.id ∉ c.targets
  unreachable : Reports fs "orphan_step" e none →
    ∀ t ∈ c.targets, IsSpelledOut c.steps t → s ∉ candidates t c.steps

section

variable (h : Content.build source payload = .ok c) (hlint : lint payload locations = .ok fs)

include h hlint

theorem reports_target_iff (he : e ∈ entriesIn payload)
    (hoptions : e.options payload.presets = os.map (OptionOf.map .str)) (w : Way) (j : Nat) :
    Reports fs w.code e (some j) ↔
      ∃ o t, os[j]? = some o ∧ w.target? o = some t ∧ ∀ s ∈ c.steps, s.id ≠ t := by
  have hids : (subjectOf payload locations).stepIds = c.steps.map (·.id) := map_id_stepEntries h
  have hleads : ∀ t, (subjectOf payload locations).leadsToStep (.str t) = false ↔
      ∀ s ∈ c.steps, s.id ≠ t := by
    intro t
    simp [Subject.leadsToStep, Json.asText?, hids]
  have hcheck : Check.ofCode? w.code = some .targets := by cases w <;> rfl
  rw [reports_iff (Content.checked_of_build h) hlint hcheck]
  simp only [Subject.FoundBy, mem_brokenTargets_iff]
  constructor
  · rintro ⟨f, ⟨e', he', j', a, ha, w', t, ht, hbroken, rfl⟩, hcode, hindex, hj⟩
    -- A finding tells its entry by the index alone, and its way on by the code.
    obtain rfl : e' = e := eq_of_index_eq he' he (Option.some.inj hindex)
    obtain rfl := Option.some.inj hj
    rw [Entry.optionFinding, Way.code_problem] at hcode
    obtain rfl := Way.code_injective hcode
    have ha : (e'.options payload.presets)[j']? = some a := ha
    rw [hoptions, List.getElem?_map, Option.map_eq_some_iff] at ha
    obtain ⟨o, ho, rfl⟩ := ha
    rw [Way.target?_map, Option.map_eq_some_iff] at ht
    obtain ⟨u, hu, rfl⟩ := ht
    exact ⟨o, u, ho, hu, (hleads u).mp hbroken⟩
  · rintro ⟨o, t, ho, ht, hbroken⟩
    have ha : (e.options payload.presets)[j]? = some (o.map .str) := by
      rw [hoptions, List.getElem?_map, ho, Option.map_some]
    have ht : w.target? (o.map Json.str) = some (.str t) := by
      rw [Way.target?_map, ht, Option.map_some]
    exact ⟨_, ⟨e, he, j, _, ha, w, _, ht, (hleads t).mpr hbroken, rfl⟩, Way.code_problem _ _ _, rfl,
      rfl⟩

theorem agreesOnTargets (he : e ∈ entriesIn payload)
    (hoptions : e.options payload.presets = os.map (OptionOf.map .str)) :
    AgreesOnTargets fs c.steps e os := by
  have hreports := reports_target_iff h hlint he hoptions
  refine ⟨hreports, fun w j hspelled => ?_⟩
  rw [hreports]
  apply exists_congr
  intro o
  apply exists_congr
  intro t
  apply and_congr_right
  intro ho
  apply and_congr_right
  intro ht
  exact ((hspelled o t ho ht).candidates_eq_nil_iff h).symm

theorem agreesOnOrphan {s : Step} (he : e ∈ stepEntries payload) (hid : e.id = s.id) :
    AgreesOnOrphan fs c (subjectOf payload locations).isPlace e s := by
  have hreports : Reports fs "orphan_step" e none ↔
      (subjectOf payload locations).isPlace s.id = false ∧ s.id ∉ c.targets := by
    have hreferenced : (subjectOf payload locations).isReferenced s.id = false ↔
        s.id ∉ c.targets := by
      simp [Subject.isReferenced, str_mem_targets_iff h]
    rw [stepEntries, List.mem_filter, Bool.not_eq_true'] at he
    rw [reports_iff (Content.checked_of_build h) hlint rfl]
    simp only [Subject.FoundBy, mem_unreferencedSteps_iff]
    constructor
    · rintro ⟨f, ⟨e', he', -, hplace, hunreferenced, rfl⟩, -, hindex, -⟩
      obtain rfl : e' = e := eq_of_index_eq he' he.1 (Option.some.inj hindex)
      rw [hid] at hplace hunreferenced
      exact ⟨hplace, hreferenced.mp hunreferenced⟩
    · rintro ⟨hplace, hunreferenced⟩
      have hunreferenced := hreferenced.mpr hunreferenced
      rw [← hid] at hplace hunreferenced
      exact ⟨_, ⟨e, he.1, he.2, hplace, hunreferenced, rfl⟩, rfl, rfl, rfl⟩
  refine ⟨hreports, fun hreported t ht hspelled hs => ?_⟩
  have hsame := hspelled.exact s hs
  exact (hreports.mp hreported).2 (hsame ▸ ht)

theorem steps_agree :
    List.Forall₂ (fun e s => AgreesOnTargets fs c.steps e s.options) (stepEntries payload)
      c.steps := by
  apply forall₂_imp_of_mem (forall₂_stepEntries h)
  intro e he s hs
  exact agreesOnTargets h hlint (mem_entriesIn_iff.mpr (.inl he))
    (Entry.options_eq (stepOf_eq_ok hs).2.2.1)

theorem patches_agree :
    List.Forall₂ (fun e p => AgreesOnTargets fs c.steps e p.options) (patchEntries payload)
      c.patches := by
  apply forall₂_imp_of_mem (forall₂_patchEntries h)
  intro e he p hp
  exact agreesOnTargets h hlint (mem_entriesIn_iff.mpr (.inr he))
    (Entry.options_eq (patchOf_eq_ok hp).2.1)

theorem orphans_agree :
    List.Forall₂ (AgreesOnOrphan fs c (subjectOf payload locations).isPlace)
      (stepEntries payload) c.steps :=
  forall₂_imp_of_mem (forall₂_stepEntries h) fun _ he _ hs =>
    agreesOnOrphan h hlint he (id_eq_of_mem_stepEntries he hs)

end

/-- A payload that becomes content is linted, unless a location has a list or an object for its
name.  A target is reported exactly if it is not the id of a step to the letter, and a step exactly
if it is not a place and its id is not a target to the letter; so both are as in the engine for
targets that are spelled as the ids are. -/
theorem targets_linted (h : Content.build source payload = .ok c)
    (locations : Option (Table Json)) :
    ((∃ fs, lint payload locations = .ok fs) ↔ AreNamed (locationsFor payload locations)) ∧
      ∀ fs, lint payload locations = .ok fs →
        List.Forall₂ (fun e s => AgreesOnTargets fs c.steps e s.options) (stepEntries payload)
            c.steps ∧
          List.Forall₂ (fun e p => AgreesOnTargets fs c.steps e p.options) (patchEntries payload)
            c.patches ∧
          List.Forall₂ (AgreesOnOrphan fs c (subjectOf payload locations).isPlace)
            (stepEntries payload) c.steps := by
  refine ⟨exists_lint_iff (Content.checked_of_build h), fun fs hlint => ?_⟩
  exact ⟨steps_agree h hlint, patches_agree h hlint, orphans_agree h hlint⟩

/-- A gate that one can wait at, and enter without getting anywhere. -/
def openGate : Json := Content.gateStep "Gate" (.arr [.str "Wait::Gate", .str "Enter::Hall"])

def openGatePayload : Payload := .ofJson (.obj [("steps", .arr [openGate])])

def openGateStep : Step where
  id := "Gate"
  text := "A gate."
  options := [Content.waiting "Gate", { label := "Enter", passTarget := some "Hall" }]

theorem targets_linted_at_open_gate :
    ∃ fs, Content.build none openGatePayload = .ok { steps := [openGateStep] } ∧
      lint openGatePayload none = .ok fs ∧
      candidates "Gate" [openGateStep] = [openGateStep] ∧
      ¬ Reports fs "broken_pass_target" ⟨0, "Gate", openGate⟩ (some 0) ∧
      candidates "Hall" [openGateStep] = [] ∧
      Reports fs "broken_pass_target" ⟨0, "Gate", openGate⟩ (some 1) := by
  have hbuild : Content.build none openGatePayload = .ok { steps := [openGateStep] } := rfl
  have hgate : candidates "Gate" [openGateStep] = [openGateStep] := by decide +kernel
  have hhall : candidates "Hall" [openGateStep] = [] := by decide +kernel
  have hspelledGate : IsSpelledOut [openGateStep] "Gate" := by
    refine ⟨by decide +kernel, fun s hs => ?_⟩
    rw [hgate, List.mem_singleton] at hs
    rw [hs, openGateStep]
  have hspelledHall : IsSpelledOut [openGateStep] "Hall" := by
    refine ⟨by decide +kernel, fun s hs => ?_⟩
    rw [hhall] at hs
    contradiction
  obtain ⟨hanswers, hagrees⟩ := targets_linted hbuild none
  obtain ⟨fs, hlint⟩ := hanswers.mpr nofun
  cases (hagrees fs hlint).1 with
  | cons hagree =>
      refine ⟨fs, hbuild, hlint, hgate, fun hreported => ?_, hhall, ?_⟩
      · obtain ⟨o, t, ho, ht, hnil⟩ := (hagree.deadEnd_iff .pass 0 (by
          rintro o t ⟨⟩ ⟨⟩
          exact hspelledGate)).mp hreported
        obtain rfl := Option.some.inj ho
        obtain rfl := Option.some.inj ht
        contradiction
      · refine (hagree.deadEnd_iff .pass 1 ?_).mpr ⟨_, "Hall", rfl, rfl, hhall⟩
        rintro o t ⟨⟩ ⟨⟩
        exact hspelledHall

/-- The payload has the steps, and is linted. -/
structure Lints (payload : Payload) (steps : List Step) (fs : List Finding) : Prop where
  built : Content.build none payload = .ok { steps }
  linted : lint payload none = .ok fs

theorem exists_lints {steps : List Step} (h : Content.build none payload = .ok { steps })
    (hnamed : AreNamed (locationsFor payload none)) : ∃ fs, Lints payload steps fs := by
  obtain ⟨fs, hlint⟩ := (exists_lint_iff (Content.checked_of_build h)).mpr hnamed
  exact ⟨fs, h, hlint⟩

def waitingEntry (id target : String) : Entry :=
  ⟨0, id, Content.gateStep id (.arr [.str ("Wait::" ++ target)])⟩

def waitingStep (id target : String) : Step where
  id := id
  text := "A gate."
  options := [Content.waiting target]

def innerGate : Payload :=
  .ofJson (.obj [("steps", .arr [Content.gateStep "Gate" (.arr [.str "Wait::INNER_GATE"]),
    Content.gateStep "inner_gate" .null])])

def innerGateStep : Step where
  id := "inner_gate"
  text := "A gate."

/-- A target whose letters are in another case than those of the id is reported, and leads to the
step.  With white space at the ends of both nothing is reported, and the target leads nowhere.  A
step that a target leads to in another case is reported to be led to by none. -/
theorem targets_are_taken_to_the_letter :
    (∃ fs, Lints Content.waitingGate [waitingStep "Gate" "GATE"] fs ∧
      Reports fs "broken_pass_target" (waitingEntry "Gate" "GATE") (some 0) ∧
      candidates "GATE" [waitingStep "Gate" "GATE"] = [waitingStep "Gate" "GATE"]) ∧
    (∃ fs, Lints Content.spacedGate [waitingStep " Gate" " Gate"] fs ∧
      ¬ Reports fs "broken_pass_target" (waitingEntry " Gate" " Gate") (some 0) ∧
      candidates " Gate" [waitingStep " Gate" " Gate"] = []) ∧
    ∃ fs, Lints innerGate [waitingStep "Gate" "INNER_GATE", innerGateStep] fs ∧
      Reports fs "orphan_step" ⟨1, "inner_gate", Content.gateStep "inner_gate" .null⟩ none ∧
      candidates "INNER_GATE" [waitingStep "Gate" "INNER_GATE", innerGateStep] =
        [innerGateStep] := by
  refine ⟨?_, ?_, ?_⟩
  · have hbuild : Content.build none Content.waitingGate =
        .ok { steps := [waitingStep "Gate" "GATE"] } := rfl
    obtain ⟨fs, h⟩ := exists_lints hbuild nofun
    cases steps_agree h.built h.linted with
    | cons hgate =>
        refine ⟨fs, h, (hgate.reports_iff .pass 0).mpr ⟨_, "GATE", rfl, rfl, ?_⟩, by decide +kernel⟩
        simp [waitingStep]
  · have hbuild : Content.build none Content.spacedGate =
        .ok { steps := [waitingStep " Gate" " Gate"] } := rfl
    obtain ⟨fs, h⟩ := exists_lints hbuild nofun
    cases steps_agree h.built h.linted with
    | cons hgate =>
        refine ⟨fs, h, fun hreported => ?_, by decide +kernel⟩
        obtain ⟨o, t, ho, ht, hne⟩ := (hgate.reports_iff .pass 0).mp hreported
        obtain rfl := Option.some.inj ho
        obtain rfl := Option.some.inj ht
        exact hne _ List.mem_cons_self rfl
  · have hbuild : Content.build none innerGate =
        .ok { steps := [waitingStep "Gate" "INNER_GATE", innerGateStep] } := rfl
    obtain ⟨fs, h⟩ := exists_lints hbuild nofun
    cases orphans_agree h.built h.linted with
    | cons _ hrest =>
        cases hrest with
        | cons hinner =>
            refine ⟨fs, h, hinner.reports_iff.mpr ⟨rfl, ?_⟩, by decide +kernel⟩
            simp [Content.targets, OptionOf.targets, waitingStep, Content.waiting, innerGateStep]

end Lint

end Questline
