import Questline.Content.Build
import Questline.Proofs.Attempt

/-!
# Sources of records

Records note where they come from.  Nothing else about them depends on it, and
neither does whether they can be read.
-/

namespace Questline

variable {presets : PairTable} (source : Option String)

def StepOf.unsourced {α : Type} (s : StepOf α) : StepOf α := { s with source := none }

def PatchOf.unsourced {α : Type} (p : PatchOf α) : PatchOf α := { p with source := none }

/-- Content without the sources of its records. -/
def Content.unsourced (c : Content) : Content :=
  { c with steps := c.steps.map StepOf.unsourced, patches := c.patches.map PatchOf.unsourced }

/-! ## Reading -/

theorem stepOf_unsourced (v : Json) :
    (stepOf presets source v).map StepOf.unsourced = stepOf presets none v := by
  unfold stepOf
  cases idOf v with
  | error f => rfl
  | ok id =>
      cases liftFault (declarationsOf (v.memberOrNull "vars")) with
      | error f => rfl
      | ok vars => cases optionsOf presets (v.memberOrNull "options") <;> rfl

theorem patchOf_unsourced (v : Json) :
    (patchOf presets source v).map PatchOf.unsourced = patchOf presets none v := by
  unfold patchOf
  split
  · rfl
  · cases targetOf v with
    | error f => rfl
    | ok target =>
        cases optionsOf presets (v.memberOrNull "options") with
        | error f => rfl
        | ok options => cases liftFault (declarationsOf (v.memberOrNull "vars")) <;> rfl

theorem StepOf.convert?_unsourced {α β : Type} (f : α → Option β) (s : StepOf α) :
    (s.convert? f).map unsourced = s.unsourced.convert? f := by
  unfold StepOf.convert? unsourced
  dsimp only
  cases f s.id with
  | none => rfl
  | some id =>
      cases f s.text with
      | none => rfl
      | some text =>
          cases s.options.mapM (OptionOf.convert? f) with
          | none => rfl
          | some options => cases Questline.convert? f s.log <;> rfl

theorem PatchOf.convert?_unsourced {α β : Type} (f : α → Option β) (p : PatchOf α) :
    (p.convert? f).map unsourced = p.unsourced.convert? f := by
  unfold PatchOf.convert? unsourced
  dsimp only
  cases p.text.convert? f with
  | none => rfl
  | some text => cases p.options.mapM (OptionOf.convert? f) <;> rfl

namespace Content

theorem readStep_unsourced (v : Json) :
    (readStep presets source v).map StepOf.unsourced = readStep presets none v := by
  unfold readStep
  rw [← stepOf_unsourced source v]
  cases stepOf presets source v with
  | error f => rfl
  | ok s =>
      simp only [bind, Except.bind, Except.map, AuthoredStep.settle, ← s.convert?_unsourced]
      cases s.convert? Json.asText? <;> rfl

theorem readPatch_unsourced (v : Json) :
    (readPatch presets source v).map PatchOf.unsourced = readPatch presets none v := by
  unfold readPatch
  rw [← patchOf_unsourced source v]
  cases patchOf presets source v with
  | error f => rfl
  | ok p =>
      simp only [bind, Except.bind, Except.map, AuthoredPatch.settle, ← p.convert?_unsourced]
      cases p.convert? Json.asText? <;> rfl

theorem liftShape_map {α β : Type} (x : Except ShapeFault α) (f : α → β) :
    (liftShape x).map f = liftShape (x.map f) := by
  cases x <;> rfl

/-! ## Building -/

/-- The source of content is noted in its records, and changes nothing else. -/
theorem assemble_unsourced (payload : Payload) :
    (assemble source payload).map unsourced = assemble none payload := by
  have hsteps := map_mapM (fun v => liftShape (readStep payload.presets source v))
    StepOf.unsourced (stepRecords payload)
  have hpatches := map_mapM (fun v => liftShape (readPatch payload.presets source v))
    PatchOf.unsourced (patchRecords payload)
  simp only [liftShape_map, readStep_unsourced, readPatch_unsourced] at hsteps hpatches
  simp only [assemble, ← hsteps, ← hpatches]
  cases (stepRecords payload).mapM fun v => liftShape (readStep payload.presets source v) with
  | error f => rfl
  | ok steps =>
      cases (patchRecords payload).mapM fun v => liftShape (readPatch payload.presets source v) with
      | error f => rfl
      | ok patches =>
          cases liftContent (Config.ofJson (payload.value.memberOrNull "config")) with
          | error f => rfl
          | ok config =>
              have htargets : ((patches.map PatchOf.unsourced).any fun p => p.target.isContainer) =
                  patches.any fun p => p.target.isContainer := by
                rw [List.any_map]
                rfl
              simp only [bind, Except.bind, Except.map, htargets]
              cases patches.any fun p => p.target.isContainer <;> rfl

end Content

end Questline
