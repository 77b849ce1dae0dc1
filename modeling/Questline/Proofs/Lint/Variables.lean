import Questline.Proofs.Lint.Findings
import Questline.Proofs.Player.Templates

/-!
# Variables as the linter takes them

The engine fills in the names that tags grant and consume as well as texts, log
lines and labels, and what a patch puts before, behind and in place of a text.
The linter looks at texts, log lines and labels alone, and finds no text in a
patch.
-/

namespace Questline

variable {source : Option String} {payload : Payload} {c : Content} {presets : PairTable}
  {locations : Option (Table Json)}

namespace Lint

open Subject

variable {fs : List Finding} {e : Entry}

/-- A text that does not count as given has no placeholders. -/
theorem filledNames_asText? {v : Json} {t : Option String} (h : v.given? = t.map .str) :
    filledNames v.asText?.toList = filledNames t.toList := by
  cases t with
  | some s =>
      obtain rfl : v = .str s := by
        unfold Json.given? at h
        split at h
        · exact Option.some.inj h
        · contradiction
      rfl
  | none =>
      cases v with
      | str s =>
          have hempty : s = "" := by
            by_contra hne
            simp [Json.given?, Json.isGiven, hne] at h
          rw [hempty]
          rfl
      | _ => rfl

/-- The log line that stands in a record, whether or not it is ever shown. -/
def Entry.logTexts (e : Entry) : List String := (e.record.memberOrNull "log").asText?.toList

theorem Entry.used_eq (presets : PairTable) (e : Entry) :
    e.used presets = filledNames (e.record.memberOrNull "text").asText?.toList ++
      filledNames e.logTexts ++ filledNames ((e.options presets).map (·.label)) := by
  have hown : (["text", "log"].filterMap fun key => (e.record.memberOrNull key).asText?) =
      (e.record.memberOrNull "text").asText?.toList ++ e.logTexts := by
    rw [Entry.logTexts]
    cases htext : (e.record.memberOrNull "text").asText? <;>
      cases hlog : (e.record.memberOrNull "log").asText? <;> simp [htext, hlog]
  rw [Entry.used, hown, ← filledNames_append, ← filledNames_append]
  rfl

theorem map_label_map {α β : Type} (f : α → β) (os : List (OptionOf α)) :
    (os.map (OptionOf.map f)).map (·.label) = os.map (·.label) := by
  rw [List.map_map]
  rfl

theorem used_of_step {s : Step} (h : stepOf presets source e.record = .ok (draftOf s)) :
    e.used presets = filledNames (s.text :: s.log.toList ++ s.options.map (·.label)) := by
  obtain ⟨-, -, hoptions, htext, hlog⟩ := stepOf_eq_ok h
  have htext :
      filledNames (e.record.memberOrNull "text").asText?.toList = filledNames [s.text] := by
    cases hgiven : (e.record.memberOrNull "text").given? with
    | none =>
        rw [hgiven] at htext
        have hempty : "" = s.text := Json.str.inj htext
        have hnone : (e.record.memberOrNull "text").given? = (none : Option String).map .str :=
          hgiven
        rw [filledNames_asText? hnone, ← hempty]
        rfl
    | some w =>
        rw [hgiven] at htext
        have hsome : (e.record.memberOrNull "text").given? = (some s.text).map .str := by
          rw [hgiven, Option.map_some, ← show w = .str s.text from htext]
        exact filledNames_asText? hsome
  rw [Entry.used_eq, htext, Entry.logTexts, filledNames_asText? hlog, Entry.options_eq hoptions,
    map_label_map, ← filledNames_append, ← filledNames_append]
  rfl

theorem used_of_patch {p : StepPatch} (h : patchOf presets source e.record = .ok (draftOfPatch p))
    (htext : (e.record.memberOrNull "text").asText? = none) :
    e.used presets = filledNames (e.logTexts ++ p.options.map (·.label)) := by
  obtain ⟨-, hoptions, -⟩ := patchOf_eq_ok h
  rw [Entry.used_eq, htext, Entry.options_eq hoptions, map_label_map, filledNames_append]
  rfl

/-- A patch that is let through has no text for its text. -/
theorem asText?_text_of_patch (h : payload.Checked) (he : e ∈ patchEntries payload) :
    (e.record.memberOrNull "text").asText? = none := by
  obtain ⟨spot, key, target, hsub⟩ :=
    Validation.exists_checkPatch h.passes.1 (record_mem_patchRecords h he)
  have hclean := h.passes.1.mono hsub
  obtain ⟨t, -, -, -, hcheck⟩ := Validation.checkPatch_eq hclean
  rw [hcheck, Validation.clean_patchTarget] at hclean
  simp only [Validation.clean_append] at hclean
  obtain ⟨⟨⟨-, htext⟩, -⟩, -⟩ := hclean
  cases hmember : e.record.memberOrNull "text" with
  | str s =>
      rw [hmember] at htext
      exact absurd htext (Validation.not_clean_problem rfl)
  | _ => rfl

theorem declared_eq {vars : Declarations}
    (h : declarationsOf (e.record.memberOrNull "vars") = .ok vars) : e.declared = vars.keys := by
  rw [Entry.declared, Table.keys, Table.keys, ← List.forall₂_eq_eq_eq, List.forall₂_map_left_iff,
    List.forall₂_map_right_iff]
  refine (forall₂_of_mapM_eq_ok h).imp fun m d hd => ?_
  obtain ⟨choices, -, hd⟩ := bind_eq_ok_iff.mp hd
  obtain rfl := Except.ok.inj hd
  rfl

/-! ## Findings about names -/

/-- Of the names with one base the first is looked at. -/
theorem exists_mem_firstOfBase {seen names : List String} {n : String} (hn : n ∈ names)
    (hseen : baseName n ∉ seen) :
    ∃ first ∈ firstOfBase seen names, baseName first = baseName n := by
  -- A name with another base adds it to `seen`, which keeps the base of `n` out.
  induction names generalizing seen with
  | nil => contradiction
  | cons name names ih =>
      unfold firstOfBase
      by_cases hbase : baseName name = baseName n
      · rw [if_neg (by simpa [hbase] using hseen)]
        exact ⟨name, List.mem_cons_self, hbase⟩
      · have hn : n ∈ names := by
          refine (List.mem_cons.mp hn).resolve_left ?_
          rintro rfl
          exact hbase rfl
        split
        · exact ih hn hseen
        · have hseen' : baseName n ∉ baseName name :: seen := by
            simp [hseen, Ne.symm hbase]
          obtain ⟨first, hfirst, hsame⟩ := ih hn hseen'
          exact ⟨first, List.mem_cons_of_mem _ hfirst, hsame⟩

theorem firstOfBase_subset (seen names : List String) : firstOfBase seen names ⊆ names := by
  induction names generalizing seen with
  | nil => exact List.Subset.refl _
  | cons name names ih =>
      unfold firstOfBase
      split
      · exact List.subset_cons_of_subset _ (ih seen)
      · exact List.cons_subset_cons _ (ih _)

/-- What is reported of the names that an entry is taken to fill in. -/
structure LintsNames (payload : Payload) (fs : List Finding) (e : Entry) (used : List String) :
    Prop where
  /-- A declared variable is reported that is the base of no name. -/
  unused_iff : ∀ x, e.finding (.variableUnused x) ∈ fs ↔
    x ∈ e.declared ∧ ∀ n ∈ used, baseName n ≠ x
  /-- A name is reported whose base is declared nowhere, unless the entry declares a name with that
  base in full. -/
  undefined : ∀ n ∈ used, baseName n ≠ Player.characterName →
    (∀ e' ∈ entriesIn payload, baseName n ∉ e'.declared) →
    (∀ m ∈ used, baseName m = baseName n → m ∉ e.declared) →
    ∃ m ∈ used, baseName m = baseName n ∧ e.finding (.variableUndefined m) ∈ fs

section

variable (h : payload.Checked) (hlint : lint payload locations = .ok fs)

include h hlint

theorem variableUnused_mem_iff (he : e ∈ entriesIn payload) (x : String) :
    e.finding (.variableUnused x) ∈ fs ↔
      x ∈ e.declared ∧ ∀ n ∈ e.used payload.presets, baseName n ≠ x := by
  rw [mem_lint_iff h hlint]
  constructor
  · rintro ⟨k, hfound⟩
    obtain rfl : .unusedVariables = k := Option.some.inj (ofCode?_of_foundBy hfound)
    obtain ⟨e', he', name, hname, hunused, hsame⟩ := mem_unusedVariables_iff.mp hfound
    simp only [Entry.finding, Finding.mk.injEq, Option.some.injEq,
      Problem.variableUnused.injEq] at hsame
    obtain ⟨rfl, -, hindex, -⟩ := hsame
    obtain rfl := eq_of_index_eq he he' hindex
    exact ⟨hname, hunused⟩
  · rintro ⟨hx, hunused⟩
    exact ⟨.unusedVariables, mem_unusedVariables_iff.mpr ⟨e, he, x, hx, hunused, rfl⟩⟩

theorem lintsNames (he : e ∈ entriesIn payload) :
    LintsNames payload fs e (e.used payload.presets) := by
  refine ⟨variableUnused_mem_iff h hlint he, ?_⟩
  intro n hn hbuiltin hnowhere hfull
  obtain ⟨m, hm, hbase⟩ := exists_mem_firstOfBase hn (List.not_mem_nil)
  have hused := firstOfBase_subset _ _ hm
  refine ⟨m, hused, hbase, (mem_lint_iff h hlint).mpr ⟨.undefinedVariables, ?_⟩⟩
  refine mem_undefinedVariables_iff.mpr ⟨e, he, m, hm, ?_, ?_⟩
  · simp [isKnown, builtinVariables, hbase, hfull m hused hbase, hnowhere e he, hbuiltin]
  · have hnone : (subjectOf payload locations).firstDeclaration? (baseName m) = none := by
      rw [firstDeclaration?, List.find?_eq_none, hbase]
      intro e' he'
      simpa using hnowhere e' he'
    rw [undeclared, hnone]

end

/-! ## The linter's names and the engine's -/

/-- The linter takes an entry to fill in the `idle` names and the `seen` ones.  The engine fills in
the `seen` names and the `overlooked` ones. -/
structure CountsNames (payload : Payload) (e : Entry) (filled idle seen overlooked : List String) :
    Prop where
  used_eq : e.used payload.presets = idle ++ seen
  mem_filled_iff : ∀ n, n ∈ filled ↔ n ∈ seen ∨ n ∈ overlooked
  /-- Both mean the same names where there are only `seen` ones. -/
  mem_used_iff : idle = [] → overlooked = [] → ∀ n, n ∈ e.used payload.presets ↔ n ∈ filled

theorem CountsNames.of_parts {filled idle seen overlooked : List String}
    (hused : e.used payload.presets = idle ++ seen)
    (hfilled : ∀ n, n ∈ filled ↔ n ∈ seen ∨ n ∈ overlooked) :
    CountsNames payload e filled idle seen overlooked := by
  refine ⟨hused, hfilled, ?_⟩
  rintro rfl rfl n
  simp [hused, hfilled]

theorem countsNames_of_step {s : Step}
    (h : stepOf payload.presets source e.record = .ok (draftOf s)) :
    CountsNames payload e (filledNames s.templates) []
      (filledNames (s.text :: s.log.toList ++ s.options.map (·.label)))
      (filledNames (changedNames s.tokens)) := by
  refine .of_parts (used_of_step h) fun n => ?_
  rw [StepOf.templates, filledNames_append, List.mem_append]

theorem countsNames_of_patch {p : StepPatch} (h : payload.Checked) (he : e ∈ patchEntries payload)
    (hp : patchOf payload.presets source e.record = .ok (draftOfPatch p)) :
    CountsNames payload e (filledNames p.templates) (filledNames e.logTexts)
      (filledNames (p.options.map (·.label)))
      (filledNames (p.text.texts ++ changedNames p.tokens)) := by
  have hused := used_of_patch hp (asText?_text_of_patch h he)
  rw [filledNames_append] at hused
  refine .of_parts hused fun n => ?_
  simp only [PatchOf.templates, filledNames_append, List.mem_append]
  tauto

/-- The linter overlooks the placeholders in the names of tags, and those in the text of a patch;
and it minds a log line in a patch, which the engine does not.  Where there are none of these, the
names it counts are those that the engine fills in. -/
theorem variables_linted (h : Content.build source payload = .ok c)
    (hlint : lint payload locations = .ok fs) :
    List.Forall₂ (fun e s => e.declared = s.vars.keys ∧
        CountsNames payload e (filledNames s.templates) []
          (filledNames (s.text :: s.log.toList ++ s.options.map (·.label)))
          (filledNames (changedNames s.tokens)))
      (stepEntries payload) c.steps ∧
    List.Forall₂ (fun e p => e.declared = p.vars.keys ∧
        CountsNames payload e (filledNames p.templates) (filledNames e.logTexts)
          (filledNames (p.options.map (·.label)))
          (filledNames (p.text.texts ++ changedNames p.tokens)))
      (patchEntries payload) c.patches ∧
    ∀ e ∈ entriesIn payload, LintsNames payload fs e (e.used payload.presets) := by
  have hchecked := Content.checked_of_build h
  refine ⟨?_, ?_, fun e he => lintsNames hchecked hlint he⟩
  · refine (forall₂_stepEntries h).imp fun e s hs => ?_
    exact ⟨declared_eq (stepOf_eq_ok hs).2.1, countsNames_of_step hs⟩
  · apply forall₂_imp_of_mem (forall₂_patchEntries h)
    intro e he p hp
    exact ⟨declared_eq (patchOf_eq_ok hp).1, countsNames_of_patch hchecked he hp⟩

/-- A gate with a guard who is met, a dog who is not, and a ghost whom nobody has declared. -/
def guardedGate : Json :=
  .obj [("id", .str "Gate"),
    ("text", .str "\x7b\x7bguard.He\x7d\x7d sees a \x7b\x7bghost\x7d\x7d."),
    ("vars", .obj [("guard", .str "Ana"), ("dog", .str "Rex")])]

def guardedGatePayload : Payload := .ofJson (.obj [("steps", .arr [guardedGate])])

def guardedGateStep : Step where
  id := "Gate"
  text := "\x7b\x7bguard.He\x7d\x7d sees a \x7b\x7bghost\x7d\x7d."
  vars := [("guard", some [.text "Ana"]), ("dog", some [.text "Rex"])]

theorem variables_linted_at_guarded_gate :
    let gate : Entry := ⟨0, "Gate", guardedGate⟩
    ∃ fs, Content.build none guardedGatePayload = .ok { steps := [guardedGateStep] } ∧
      lint guardedGatePayload none = .ok fs ∧
      gate.finding (.variableUnused "guard") ∉ fs ∧ gate.finding (.variableUnused "dog") ∈ fs ∧
      gate.finding (.variableUndefined "ghost") ∈ fs := by
  intro gate
  have hbuild : Content.build none guardedGatePayload = .ok { steps := [guardedGateStep] } := rfl
  obtain ⟨fs, hlint⟩ : ∃ fs, lint guardedGatePayload none = .ok fs :=
    (exists_lint_iff (Content.checked_of_build hbuild)).mpr nofun
  obtain ⟨hsteps, -, hlints⟩ := variables_linted hbuild hlint
  cases hsteps with
  | cons hgate _ =>
      have hused : gate.used guardedGatePayload.presets = ["guard.He", "ghost"] := by
        refine hgate.2.used_eq.trans ?_
        decide +kernel
      have hgateLints := hlints gate List.mem_cons_self
      rw [hused] at hgateLints
      refine ⟨fs, hbuild, hlint, fun hunused => ?_, ?_, ?_⟩
      · exact ((hgateLints.unused_iff "guard").mp hunused).2 "guard.He" (by simp) (by decide)
      · exact (hgateLints.unused_iff "dog").mpr ⟨by decide, by decide⟩
      · obtain ⟨m, hm, hbase, hfound⟩ := hgateLints.undefined "ghost" (by simp) (by decide)
          (by decide) (by decide)
        have hghost : m = "ghost" := by
          simp only [List.mem_cons, List.not_mem_nil, or_false] at hm
          rcases hm with rfl | rfl
          · exact absurd hbase (by decide)
          · rfl
        rwa [hghost] at hfound

theorem code_ne_undefined (h : payload.Checked) (hlint : lint payload locations = .ok fs)
    (hknown : ∀ e ∈ entriesIn payload, ∀ name ∈ firstOfBase [] (e.used payload.presets),
      isKnown e name = true) : ∀ f ∈ fs, f.problem.code ≠ "undefined_variable" := by
  intro f hf hcode
  obtain ⟨k, hfound⟩ := (mem_lint_iff h hlint).mp hf
  have hk := ofCode?_of_foundBy hfound
  rw [hcode] at hk
  obtain rfl : .undefinedVariables = k := Option.some.inj hk
  obtain ⟨e, he, name, hname, hunknown, -⟩ := mem_undefinedVariables_iff.mp hfound
  rw [hknown e he name hname] at hunknown
  contradiction

def wavingPatch : Json :=
  .obj [("id", .str "@patch:Gate"), ("vars", .obj [("guard", .str "Ana")]),
    ("text", .obj [("append", .str "\x7b\x7bguard\x7d\x7d waves.")])]

def wavingGate : Payload :=
  .ofJson (.obj [("steps", .arr [Content.gateStep "Gate" .null, wavingPatch])])

def guardWaves : StepPatch where
  target := .str "Gate"
  vars := [("guard", some [.text "Ana"])]
  text := { after := some "\x7b\x7bguard\x7d\x7d waves." }

def hauntedGate : Payload :=
  .ofJson (.obj [("steps", .arr [.obj [("id", .str "Gate"), ("text", .str "A gate."),
    ("tags", .arr [.str "+met:\x7b\x7bghost\x7d\x7d"])]])])

def hauntedGateStep : Step where
  id := "Gate"
  text := "A gate."
  tags := ["+met:\x7b\x7bghost\x7d\x7d"]

def namedGuard : Json :=
  .obj [("id", .str "Gate"), ("vars", .obj [("npc.name", .str "Ana")]),
    ("text", .str "\x7b\x7bnpc.name\x7d\x7d is \x7b\x7bnpc.age\x7d\x7d.")]

def namedGuardGate : Payload := .ofJson (.obj [("steps", .arr [namedGuard])])

def namedGuardStep : Step where
  id := "Gate"
  text := "\x7b\x7bnpc.name\x7d\x7d is \x7b\x7bnpc.age\x7d\x7d."
  vars := [("npc.name", some [.text "Ana"])]

/-- A variable that a patch puts into the text is reported to be unused.  A placeholder in the name
of a tag goes unnoticed though nothing declares it, and so does one whose base begins the name of a
declared variable; that variable is reported to be unused where it is filled in. -/
theorem names_are_overlooked :
    (∃ c fs, Content.build none wavingGate = .ok c ∧ lint wavingGate none = .ok fs ∧
      (∃ p ∈ c.patches, "guard" ∈ filledNames p.templates) ∧
      (⟨1, "@patch:Gate", wavingPatch⟩ : Entry).finding (.variableUnused "guard") ∈ fs) ∧
    (∃ c fs, Content.build none hauntedGate = .ok c ∧ lint hauntedGate none = .ok fs ∧
      (∃ s ∈ c.steps, "ghost" ∈ filledNames s.templates ∧ s.vars = []) ∧
      ∀ f ∈ fs, f.problem.code ≠ "undefined_variable") ∧
    ∃ c fs, Content.build none namedGuardGate = .ok c ∧ lint namedGuardGate none = .ok fs ∧
      (∃ s ∈ c.steps, filledNames s.templates = ["npc.name", "npc.age"] ∧
        s.vars.keys = ["npc.name"]) ∧
      (∀ f ∈ fs, f.problem.code ≠ "undefined_variable") ∧
      (⟨0, "Gate", namedGuard⟩ : Entry).finding (.variableUnused "npc.name") ∈ fs := by
  refine ⟨?_, ?_, ?_⟩
  · have hbuild : Content.build none wavingGate =
        .ok { steps := [{ id := "Gate", text := "A gate." }], patches := [guardWaves] } := rfl
    have hchecked := Content.checked_of_build hbuild
    obtain ⟨fs, hlint⟩ : ∃ fs, lint wavingGate none = .ok fs :=
      (exists_lint_iff hchecked).mpr nofun
    refine ⟨_, fs, hbuild, hlint, ⟨guardWaves, List.mem_cons_self, by decide +kernel⟩, ?_⟩
    refine (variableUnused_mem_iff hchecked hlint (List.mem_cons_of_mem _ List.mem_cons_self)
      "guard").mpr ⟨by decide, by decide +kernel⟩
  · have hbuild : Content.build none hauntedGate = .ok { steps := [hauntedGateStep] } := rfl
    have hchecked := Content.checked_of_build hbuild
    obtain ⟨fs, hlint⟩ : ∃ fs, lint hauntedGate none = .ok fs :=
      (exists_lint_iff hchecked).mpr nofun
    refine ⟨_, fs, hbuild, hlint, ⟨_, List.mem_cons_self, by decide +kernel, rfl⟩, ?_⟩
    exact code_ne_undefined hchecked hlint (by decide +kernel)
  · have hbuild : Content.build none namedGuardGate = .ok { steps := [namedGuardStep] } := rfl
    have hchecked := Content.checked_of_build hbuild
    obtain ⟨fs, hlint⟩ : ∃ fs, lint namedGuardGate none = .ok fs :=
      (exists_lint_iff hchecked).mpr nofun
    refine ⟨_, fs, hbuild, hlint, ⟨_, List.mem_cons_self, by decide +kernel, rfl⟩, ?_, ?_⟩
    · exact code_ne_undefined hchecked hlint (by decide +kernel)
    · exact (variableUnused_mem_iff hchecked hlint List.mem_cons_self "npc.name").mpr
        ⟨by decide, by decide +kernel⟩

end Lint

end Questline
