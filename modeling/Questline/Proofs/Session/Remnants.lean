import Questline.Proofs.Session.Coherence

/-!
# What skill checks leave behind

A check that is gone on with after its result leaves nothing behind.  It can be
abandoned as well: raising a stat breaks it off with everything it has come to,
and leaving the step at its result forgets the option but not the result.  What
was left behind stays until a new game or a walk clears it away, or another
check is gone on with.
-/

namespace Questline.Session

/-- Whether a check that is over has left its option or its result. -/
structure Remnants where
  option : Bool := false
  result : Bool := false
deriving DecidableEq

/-- The action ends a check that is under way without acting upon its result. -/
def abandons (s : Session) : Action → Bool
  | .increaseStat _ => s.phase.isCheck
  | .leave => s.phase = .skillCheckResult
  | _ => false

/-- What is left behind after a turn; `w` was before. -/
def Remnants.next (w : Remnants) (s : Session) (a : Action) (t : Turn) : Remnants :=
  match a with
  | .start _ _ => {}
  | .navigate _ => {}
  | .increaseStat _ =>
    ⟨w.option || s.phase.isCheck, w.result || s.phase = .skillCheckResult⟩
  | .leave => ⟨false, w.result || s.phase = .skillCheckResult⟩
  | .rollCheck _ => w
  | .continueCheck =>
    match t.outcome with
    | some (.refused _) => w
    | _ => {}
  | .selectOption _ =>
    match t.outcome with
    | some (.ended _) => { w with option := false }
    | _ => w

def remnants (s : Session) (w : Remnants) : List Action → Remnants
  | [] => w
  | a :: as => (s.perform a).session.remnants (w.next s a (s.perform a)) as

/-- Outside of its phases, as much is there of a check as was left behind. -/
structure Keeps (s : Session) (w : Remnants) : Prop where
  option : s.phase.isCheck = false → s.pendingOption.isSome = w.option
  result : s.phase ≠ .skillCheckResult → s.lastResult.isSome = w.result

variable {s : Session} {a : Action} {t : Turn} {w : Remnants}

namespace Keeps

theorem of_cleared (hoption : s.pendingOption = none) (hresult : s.lastResult = none) :
    s.Keeps {} where
  option := fun _ => by rw [hoption]; rfl
  result := fun _ => by rw [hresult]; rfl

/-- A result is there if it belongs to a check that is under way or was left behind. -/
theorem lastResult_isSome (hc : s.Coherent) (hs : s.Keeps w) :
    s.lastResult.isSome = (w.result || s.phase = .skillCheckResult) := by
  by_cases hphase : s.phase = .skillCheckResult
  · obtain ⟨_, c, -, hlast, -⟩ := hc.result_isFor hphase
    simp [hlast, hphase]
  · simp [hs.result hphase, hphase]

theorem pendingOption_isSome (hc : s.Coherent) (hs : s.Keeps w) :
    s.pendingOption.isSome = (w.option || s.phase.isCheck) := by
  cases hphase : s.phase.isCheck with
  | true =>
      obtain ⟨o, hpending, -⟩ := hc.pending_isSkillCheck hphase
      simp [hpending]
  | false => simp [hs.option hphase]

end Keeps

/-- An option that is no check leaves things as they were, or forgets an option left behind. -/
theorem Landing.keeps_of_selectOption {earlier : Option Mutations} {target : Option String}
    (h : Landing s earlier target t) (hoption : s.pendingOption.isSome = w.option)
    (hresult : s.lastResult.isSome = w.result) (origin : Session) (index : Int) :
    t.session.Keeps (w.next origin (.selectOption index) t) := by
  cases h with
  | shown => exact ⟨fun _ => hoption, fun _ => hresult⟩
  | lost => exact ⟨fun _ => hoption, fun _ => hresult⟩
  | ended => exact ⟨fun _ => rfl, fun _ => hresult⟩

theorem Landing.keeps_of_continueCheck {earlier : Option Mutations} {target : Option String}
    (h : Landing s.unburdened earlier target t) (w : Remnants) :
    t.session.Keeps (w.next s .continueCheck t) := by
  cases h with
  | shown => exact .of_cleared rfl rfl
  | lost => exact .of_cleared rfl rfl
  | ended => exact .of_cleared rfl rfl

theorem Exit.keeps (hc : s.Coherent) (hs : s.Keeps w) (h : Exit s a t) :
    t.session.Keeps (w.next s a t) := by
  cases h with
  | started => exact .of_cleared rfl rfl
  | arrived => exact .of_cleared rfl rfl
  | nothingHere => exact .of_cleared rfl rfl
  | notOffered => exact hs
  | asked offered _ =>
      have hresult := hs.result (by rw [offered.1.1]; decide)
      exact ⟨nofun, fun _ => hresult⟩
  | chosen offered _ landing =>
      have hoption := hs.option (by rw [offered.1.1]; rfl)
      have hresult := hs.result (by rw [offered.1.1]; decide)
      exact landing.keeps_of_selectOption hoption hresult s _
  | notPending => exact hs
  | rolled => exact ⟨nofun, fun hphase => absurd rfl hphase⟩
  | notDecided => exact hs
  | continued _ landing => exact landing.keeps_of_continueCheck w
  | raised => exact ⟨fun _ => hs.pendingOption_isSome hc, fun _ => hs.lastResult_isSome hc⟩
  | left => exact ⟨fun _ => rfl, fun _ => hs.lastResult_isSome hc⟩

theorem keeps_begin (content : Content) (player : Option Player) (draws : Draws) :
    (begin content player draws).Keeps {} := by
  cases player <;> exact .of_cleared rfl rfl

theorem keeps_run (hc : s.Coherent) (hs : s.Keeps w) (as : List Action) :
    (s.run as).Keeps (s.remnants w as) := by
  induction as generalizing s w with
  | nil => exact hs
  | cons a as ih =>
      have hexit := perform_exit s a
      -- coherence goes along: what an abandoned check had come to is read off it
      exact ih (hexit.coherent hc) (hexit.keeps hc hs)

theorem Remnants.next_of_not_abandons (h : s.abandons a = false) (t : Turn) :
    Remnants.next {} s a t = {} := by
  cases a with
  | increaseStat stat =>
      have hphase : s.phase ≠ .skillCheckResult := by
        intro hphase
        simp [abandons, hphase, Phase.isCheck] at h
      simp_all [Remnants.next, abandons]
  | leave => simp_all [Remnants.next, abandons]
  | start => rfl
  | navigate => rfl
  | selectOption =>
      simp only [Remnants.next]
      split <;> rfl
  | rollCheck => rfl
  | continueCheck =>
      simp only [Remnants.next]
      split <;> rfl

/-- Where no check is abandoned, nothing is left behind. -/
theorem remnants_of_not_abandons (as : List Action)
    (h : ∀ bs a cs, as = bs ++ a :: cs → (s.run bs).abandons a = false) :
    s.remnants {} as = {} := by
  induction as generalizing s with
  | nil => rfl
  | cons a as ih =>
      have hfirst : s.abandons a = false := h [] a as rfl
      rw [remnants, Remnants.next_of_not_abandons hfirst]
      refine ih fun bs b cs hsplit => ?_
      exact h (a :: bs) b cs (by rw [hsplit]; rfl)

/-- In every session that can be reached, an option is pending outside of skill checks exactly if
one was left behind, and a result is kept outside of its phase exactly if one was left behind.  That
happens only if a check was abandoned. -/
theorem remnants_stay_behind (content : Content) (player : Option Player) (draws : Draws)
    (as : List Action) :
    let start := begin content player draws
    let s := start.run as
    let w := start.remnants {} as
    (s.phase.isCheck = false → s.pendingOption.isSome = w.option) ∧
      (s.phase ≠ .skillCheckResult → s.lastResult.isSome = w.result) ∧
      ((∀ bs a cs, as = bs ++ a :: cs → (start.run bs).abandons a = false) → w = {}) := by
  intro start s w
  have hs : s.Keeps w :=
    keeps_run (coherent_begin content player draws) (keeps_begin content player draws) as
  exact ⟨hs.option, hs.result, remnants_of_not_abandons as⟩

/-- Leaving the gate at the result keeps the result, and raising a stat there keeps the option as
well. -/
theorem remnants_can_stay_behind :
    ∃ content, (Content.build none (.ofJson unfinishedGate)).toOption = some content ∧
      let s := (begin content none {}).run
        [.start none fun _ => none, .navigate "Gate", .selectOption 0, .rollCheck (some 1)]
      (s.run [.leave]).phase = .navigation ∧ (s.run [.leave]).lastResult.isSome = true ∧
        (s.run [.increaseStat .might]).phase = .displayStep ∧
        (s.run [.increaseStat .might]).pendingOption = some forceGate ∧
        (s.run [.increaseStat .might]).lastResult.isSome = true := by
  refine ⟨{ steps := [{ id := "Gate", text := "A gate.", options := [forceGate] }] }, ?_⟩
  decide +kernel

end Questline.Session
