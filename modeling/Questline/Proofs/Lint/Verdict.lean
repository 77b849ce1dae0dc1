import Questline.Command.Authoring
import Questline.Proofs.Lint.Findings

/-!
# The verdict on content

Once validation has found no error in a payload, only the locations can stop the
checks: they are validated as a whole, and looked up one by one by what they are
called.  The command that checks content comes to a verdict in the same cases.
-/

namespace Questline.Authoring

open Lint (AreNamed locationsFor)

variable {files : FileTree} {anchor : String} {a : Arguments} {payload : Payload}
  {found : Questline.Report}

/-- The command, called with the arguments, comes upon the payload. -/
def ComesUpon (files : FileTree) (anchor : String) (a : Arguments) (payload : Payload) : Prop :=
  let path := (contentPath a).resolve anchor
  payloadAt files path (.ok (unparsed path)) = .ok (.inl payload)

theorem report_validate_eq (h : ComesUpon files anchor a payload) :
    Tool.validate.report files anchor a =
      validatePayload ((contentPath a).resolve anchor) payload (!a.has "no-lint") := by
  unfold ComesUpon at h
  simp only [Tool.report, validateReport, h, bind, Except.bind]

/-- What the command says of a payload without errors, once it has the findings. -/
def verdict (path : FilePath) (found : Questline.Report) (findings : List Lint.Finding) : Report :=
  let lines := headed "Warnings (path: message):" found.warningTexts ++
    headed "Lint findings:" (findings.map Lint.Finding.text)
  if hasErrors findings then { lines, code := 1 }
  else { lines := lines ++ ["Validation passed for " ++ path.text ++ "."] }

theorem code_verdict (path : FilePath) (found : Questline.Report) (findings : List Lint.Finding) :
    (verdict path found findings).code = if hasErrors findings then 1 else 0 := by
  rw [verdict]
  split <;> rfl

theorem validatePayload_eq (path : FilePath) (wantsLint : Bool) (h : validate payload = .ok found)
    (hclean : found.errors = []) :
    validatePayload path payload wantsLint =
      (lintFindings payload wantsLint).map (verdict path found) := by
  simp only [validatePayload, h, liftFaultCrash, hclean, List.isEmpty_nil, Bool.not_true,
    Bool.false_eq_true, if_false, bind, Except.bind]
  cases lintFindings payload wantsLint with
  | error crash => rfl
  | ok findings =>
      simp only [verdict, Except.map]
      split <;> rfl

theorem exists_lintFindings_iff (h : payload.Checked) (wantsLint : Bool) :
    (∃ findings, lintFindings payload wantsLint = .ok findings) ↔
      (wantsLint = true → AreNamed (locationsFor payload none)) := by
  cases wantsLint with
  | false => simp [lintFindings]
  | true =>
      rw [← Lint.exists_lint_iff h]
      cases hlint : Lint.lint payload none <;> simp [lintFindings, hlint, liftFaultCrash]

/-- Content in which validation finds no error is linted unless the name of a location is a list or
an object.  In the same cases, and whenever it is not to lint, the command that checks content comes
to a verdict, which hangs on whether a finding is an error. -/
theorem verdict_reached_iff (h : validate payload = .ok found) (hclean : found.errors = []) :
    ((∃ findings, Lint.lint payload none = .ok findings) ↔ AreNamed (locationsFor payload none)) ∧
    (∀ f, Lint.lint payload none = .error f → f = .wrongKind) ∧
    ∀ files anchor a, ComesUpon files anchor a payload →
      ((∃ r, Tool.validate.report files anchor a = .ok r) ↔
        (a.has "no-lint" = false → AreNamed (locationsFor payload none))) ∧
      ∀ r, Tool.validate.report files anchor a = .ok r →
        ∃ findings, lintFindings payload (!a.has "no-lint") = .ok findings ∧
          r.code = if hasErrors findings then 1 else 0 := by
  have hchecked : payload.Checked := by
    obtain ⟨hobject, hpasses⟩ := Content.passes_of_validate h hclean
    exact ⟨hobject, hpasses⟩
  refine ⟨Lint.exists_lint_iff hchecked, ?_, fun files anchor a hcomes => ?_⟩
  · intro f hf
    by_cases hnamed : AreNamed (locationsFor payload none)
    · obtain ⟨findings, hlint⟩ := (Lint.exists_lint_iff hchecked).mpr hnamed
      rw [hlint] at hf
      contradiction
    · rw [Lint.lint_eq hchecked, if_neg hnamed] at hf
      exact (Except.error.inj hf).symm
  · rw [report_validate_eq hcomes, validatePayload_eq _ _ h hclean]
    simp only [map_eq_ok_iff]
    constructor
    · rw [← Bool.not_eq_true', ← exists_lintFindings_iff hchecked]
      constructor
      · rintro ⟨_, findings, hfindings, -⟩
        exact ⟨findings, hfindings⟩
      · rintro ⟨findings, hfindings⟩
        exact ⟨_, findings, hfindings, rfl⟩
    · rintro _ ⟨findings, hfindings, rfl⟩
      exact ⟨findings, hfindings, code_verdict _ _ _⟩

/-- A gate, and locations that have the given names. -/
def gateWithLocations (names : Table Json) : Payload :=
  .ofJson (.obj [("steps", .arr [Content.gateStep "Gate" .null]), ("locations", .obj names)])

def storedAs (name : String) (payload : Payload) : FileTree :=
  ⟨[([name], .file (.document payload.value))]⟩

theorem verdict_reached_at_gate :
    let payload := gateWithLocations [("B2", .str "Gate"), ("C3", .int 7), ("D4", .null)]
    validate payload = .ok {} ∧ AreNamed (locationsFor payload none) ∧
      (∃ findings, Lint.lint payload none = .ok findings) ∧
      ∃ r, Tool.validate.report (storedAs "c.json" payload) ""
        { positional := some "c.json" } = .ok r := by
  intro payload
  have hvalid : validate payload = .ok {} := by rfl
  have hnamed : AreNamed (locationsFor payload none) := by decide +kernel
  have hcomes : ComesUpon (storedAs "c.json" payload) "" { positional := some "c.json" } payload :=
    rfl
  obtain ⟨hlints, -, hreports⟩ := verdict_reached_iff hvalid rfl
  exact ⟨hvalid, hnamed, hlints.mpr hnamed, (hreports _ _ _ hcomes).1.mpr fun _ => hnamed⟩

/-- The name of a location is a list.  Validation finds no error and content is built, but the
checks stop, and the command with them. -/
theorem verdict_can_be_missed :
    let payload := gateWithLocations [("B2", .arr [.str "Gate"])]
    validate payload = .ok {} ∧ (∃ c, Content.build none payload = .ok c) ∧
      Lint.lint payload none = .error .wrongKind ∧
      Tool.validate.report (storedAs "c.json" payload) "" { positional := some "c.json" } =
        .error (.fault .wrongKind) :=
  ⟨rfl, ⟨_, rfl⟩, rfl, rfl⟩

end Questline.Authoring
