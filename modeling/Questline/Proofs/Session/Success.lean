import Questline.Proofs.Config.Ranges
import Questline.Proofs.Content.Reach
import Questline.Proofs.Matching.Selection
import Questline.Proofs.Player.Accounts
import Questline.Proofs.Session.Pursuit

/-!
# Actions succeed

On content that was built nothing stops an action but a level for which there
is no room: every token it reads is one of the content's and can be read.  It
is answered with an outcome, and with an apology only if the target it follows
has no step for the player as he is by then.
-/

namespace Questline

/-- What the outcome of an action can be about. -/
def Session.Action.kinds : Session.Action → List Outcome.Kind
  | .start _ _ => []
  | .navigate _ => [.step, .noMatch]
  | .selectOption _ => [.skillCheck, .step, .error, .navigation]
  | .rollCheck _ => [.error, .skillResult]
  | .continueCheck => [.step, .error, .navigation]
  | .increaseStat _ => []
  | .leave => [.navigation]

/-! ## Levels -/

theorem Player.checkLevel_cases (p : Player) (config : Config) :
    p.checkLevel config = .ok () ∨
      (Player.roomLimit : Int) < p.level config ∧
        ∃ f, p.checkLevel config = .error f ∧ (f = .noRoom ∨ f = .uncountable) := by
  have hlimits : Player.roomLimit ≤ Player.countLimit := by decide
  unfold checkLevel
  split
  · exact .inr ⟨by omega, .uncountable, rfl, .inr rfl⟩
  · split
    · next hroom => exact .inr ⟨hroom, .noRoom, rfl, .inl rfl⟩
    · exact .inl rfl

namespace Session

variable {s : Session} {a : Action} {t : Turn} {p : Pursuit}

theorem level_le_load (hconfig : s.config.IsClamped) (step : Step) (earlier : Option Mutations) :
    s.player.level s.config ≤ (s.load step earlier).session.player.level s.config :=
  (execute_accounts hconfig.questXp_nonneg hconfig.xpPerLevel_pos (s.composed step) s.player
    s.draws).level_le

/-- Steps give experience and take none away. -/
theorem Ends.level_le (h : Ends p t) (hconfig : p.session.config.IsClamped) :
    p.session.player.level p.session.config ≤ t.session.player.level p.session.config := by
  cases h with
  | @found step draws earlier =>
      let drawn : Session := { p.session with draws := draws }
      exact level_le_load (s := drawn) hconfig step earlier
  | nothingHere => exact Int.le_refl _
  | lost => exact Int.le_refl _

/-! ## Tokens -/

theorem mem_steps_of_select {id : String} {step : Step} {draws : Draws}
    (h : s.select id = (some step, draws)) : step ∈ s.content.steps := by
  have hfound : (s.select id).1 = some step := by rw [h]
  exact mem_steps_of_selectStep hfound

/-- No token of the content, nor of the options on display, has a number too long to be read. -/
structure Readable (s : Session) : Prop where
  content : s.content.Readable
  displayed : ∀ view, s.current = some view →
    ∀ v ∈ view.options, ∀ token ∈ v.option.tags, Tag.isReadable token = true

theorem Readable.of_current_eq_none (hcontent : s.content.Readable) (h : s.current = none) :
    s.Readable where
  content := hcontent
  displayed := by simp [h]

theorem readable_load (hcontent : s.content.Readable) {step : Step}
    (hstep : step ∈ s.content.steps) (earlier : Option Mutations) :
    (s.load step earlier).session.Readable where
  content := hcontent
  displayed := by
    rintro view ⟨⟩ v hv token htoken
    -- the options on display are among those of the composed step
    obtain ⟨index, hindex, rfl⟩ := List.mem_mapIdx.mp (List.mem_filter.mp hv).1
    apply hcontent.compose hstep
    apply List.mem_append_right
    exact List.mem_flatMap.mpr ⟨_, List.getElem_mem hindex, htoken⟩

theorem Landing.readable {earlier : Option Mutations} {target : Option String}
    (h : Landing s earlier target t) (hcontent : s.content.Readable) : t.session.Readable := by
  cases h with
  | @shown _ step draws selected =>
      let drawn : Session := { s with draws := draws }
      have hstep : step ∈ s.content.steps := mem_steps_of_select selected
      exact readable_load (s := drawn) hcontent hstep earlier
  | lost => exact .of_current_eq_none hcontent rfl
  | ended => exact .of_current_eq_none hcontent rfl

theorem Exit.readable (hs : s.Readable) (h : Exit s a t) : t.session.Readable := by
  cases h with
  | started => exact .of_current_eq_none hs.content rfl
  | @arrived _ step draws selected =>
      let drawn : Session := { s.unburdened with draws := draws }
      have hstep : step ∈ s.content.steps := mem_steps_of_select selected
      exact readable_load (s := drawn) hs.content hstep none
  | nothingHere => exact .of_current_eq_none hs.content rfl
  | notOffered => exact hs
  | asked => exact ⟨hs.content, hs.displayed⟩
  | chosen _ _ landing => exact landing.readable hs.content
  | notPending => exact hs
  | rolled => exact ⟨hs.content, hs.displayed⟩
  | notDecided => exact hs
  | continued _ landing => exact landing.readable hs.content
  | raised => exact ⟨hs.content, hs.displayed⟩
  | left => exact .of_current_eq_none hs.content rfl

theorem readable_run {content : Content} (hcontent : content.Readable) (player : Option Player)
    (draws : Draws) (as : List Action) : ((begin content player draws).run as).Readable := by
  have hstart : (begin content player draws).Readable := by
    cases player with
    | none => exact .of_current_eq_none hcontent rfl
    | some player => exact .of_current_eq_none hcontent rfl
  exact run_induction hstart (fun s a hs => (perform_exit s a).readable hs) as

theorem Readable.chosen? (hs : s.Readable) {o : StepOption} (h : s.chosen? a = some o) :
    ∀ token ∈ o.tags, Tag.isReadable token = true := by
  cases a with
  | selectOption index =>
      obtain ⟨v, ⟨⟨-, view, hview, hat⟩, -⟩, rfl⟩ := exists_offers_of_chosen? h
      have hmem : v ∈ view.options := by
        unfold optionAt? at hat
        split at hat
        · contradiction
        · exact List.mem_of_getElem? hat
      exact hs.displayed view hview v hmem
  | _ => contradiction

end Session

theorem Pursuit.isReadable_of_mem_tokens {p : Pursuit} (hcontent : p.session.content.Readable)
    {token : String} (h : token ∈ p.tokens) : Tag.isReadable token = true := by
  rcases List.mem_append.mp h with hsought | hmet
  · obtain ⟨step, hstep, htoken⟩ := List.mem_flatMap.mp hsought
    apply hcontent.steps step (List.mem_filter.mp hstep).1
    exact List.mem_append_left _ (readInTurn_subset _ _ htoken)
  · cases hfound : p.found? with
    | none =>
        rw [hfound] at hmet
        contradiction
    | some step =>
        rw [hfound] at hmet
        have hstep : step ∈ p.session.content.steps :=
          Session.mem_steps_of_select (Prod.ext hfound rfl)
        rcases List.mem_append.mp hmet with htried | hcomposed
        · obtain ⟨patch, hpatch, htoken⟩ := List.mem_flatMap.mp htried
          have hwritten := p.session.content.patchesFor_subset _ (List.mem_filter.mp hpatch).1
          apply hcontent.patches patch hwritten
          exact List.mem_append_left _ (readInTurn_subset _ _ htoken)
        · exact hcontent.compose hstep hcomposed

namespace Session

variable {s : Session} {a : Action} {t : Turn}

/-- Nothing is left to stop an action but the level of a player. -/
theorem Readable.check_eq (hs : s.Readable) (a : Action) :
    s.check a =
      match s.pursued? a with
      | none => .ok ()
      | some p =>
        p.session.player.checkLevel s.config >>= fun _ =>
          (s.perform a).session.player.checkLevel s.config := by
  have hpaid : checkTokens ((s.chosen? a).elim [] (·.tags)) = .ok () := by
    rw [checkTokens_eq_ok_iff]
    cases hchosen : s.chosen? a with
    | none => simp
    | some o => exact hs.chosen? hchosen
  rw [check, hpaid]
  cases hpursued : s.pursued? a with
  | none => rfl
  | some p =>
      have hcontent : p.session.content.Readable := by
        rw [content_of_pursued? hpursued]
        exact hs.content
      have hread : checkTokens p.tokens = .ok () :=
        checkTokens_eq_ok_iff.mpr fun token => Pursuit.isReadable_of_mem_tokens hcontent
      simp only [hread]
      rfl

theorem Readable.attempt_eq_ok_or (hs : s.Readable) (hconfig : s.config.IsClamped) (a : Action) :
    s.attempt a = .ok (s.perform a) ∨
      (Player.roomLimit : Int) < (s.perform a).session.player.level s.config ∧
        ∃ f, s.attempt a = .error f ∧ (f = .noRoom ∨ f = .uncountable) := by
  rw [attempt, hs.check_eq]
  cases hpursued : s.pursued? a with
  | none => exact .inl rfl
  | some p =>
      have hcontent : p.session.config = s.config :=
        congrArg Content.config (content_of_pursued? hpursued)
      have hrises := ((perform_exit s a).ends hpursued).level_le (hcontent ▸ hconfig)
      rw [hcontent] at hrises
      rcases p.session.player.checkLevel_cases s.config with hbefore | ⟨hroom, f, hbefore, hf⟩
      · rcases (s.perform a).session.player.checkLevel_cases s.config with
          hafter | ⟨hroom, f, hafter, hf⟩
        · simp only [hbefore, hafter]
          exact .inl rfl
        · simp only [hbefore, hafter]
          exact .inr ⟨hroom, f, rfl, hf⟩
      · simp only [hbefore]
        exact .inr ⟨lt_of_lt_of_le hroom hrises, f, rfl, hf⟩

/-! ## Outcomes -/

theorem Landing.exists_kind {earlier : Option Mutations} {target : Option String}
    (h : Landing s earlier target t) :
    ∃ o, t.outcome = some o ∧ o.kind ∈ [.step, .error, .navigation] := by
  cases h with
  | shown => exact ⟨_, rfl, .head _⟩
  | lost => exact ⟨_, rfl, .tail _ (.head _)⟩
  | ended => exact ⟨_, rfl, .tail _ (.tail _ (.head _))⟩

theorem Exit.exists_kind (h : Exit s a t) (ha : a.answers = true) :
    ∃ o, t.outcome = some o ∧ o.kind ∈ a.kinds := by
  cases h with
  | started => contradiction
  | arrived => exact ⟨_, rfl, .head _⟩
  | nothingHere => exact ⟨_, rfl, .tail _ (.head _)⟩
  | notOffered => exact ⟨_, rfl, .tail _ (.tail _ (.head _))⟩
  | asked => exact ⟨_, rfl, .head _⟩
  | chosen _ _ landing =>
      obtain ⟨o, ho, hkind⟩ := landing.exists_kind
      exact ⟨o, ho, .tail _ hkind⟩
  | notPending => exact ⟨_, rfl, .head _⟩
  | rolled => exact ⟨_, rfl, .tail _ (.head _)⟩
  | notDecided => exact ⟨_, rfl, .tail _ (.head _)⟩
  | continued _ landing => exact landing.exists_kind
  | raised => contradiction
  | left => exact ⟨_, rfl, .head _⟩

theorem Landing.lostMessage_iff {earlier : Option Mutations} {target : Option String}
    (h : Landing s earlier target t) :
    t.outcome.bind Outcome.message? = some lostMessage ↔
      ∃ p, target.map (Pursuit.mk s) = some p ∧
        eligibleSteps p.target p.counts s.content.steps = [] := by
  cases h with
  | @shown id step draws selected =>
      have hfound : (s.select id).1 ≠ none := by simp [selected]
      rw [ne_eq, select_fst_eq_none_iff] at hfound
      constructor
      · nofun
      · rintro ⟨_, ⟨⟩, hnone⟩
        exact absurd hnone hfound
  | @lost id draws selected =>
      have hnone : (s.select id).1 = none := by rw [selected]
      rw [select_fst_eq_none_iff] at hnone
      exact ⟨fun _ => ⟨⟨s, id⟩, rfl, hnone⟩, fun _ => rfl⟩
  | ended =>
      constructor
      · nofun
      · rintro ⟨_, ⟨⟩, -⟩

/-- An action is answered with an apology exactly if no step is eligible at the target it follows,
for the player as he is once an option has been paid for. -/
theorem Exit.lostMessage_iff (h : Exit s a t) :
    t.outcome.bind Outcome.message? = some lostMessage ↔
      ∃ p, s.followed? a = some p ∧ eligibleSteps p.target p.counts s.content.steps = [] := by
  have hother : t.outcome.bind Outcome.message? ≠ some lostMessage → s.followed? a = none →
      (t.outcome.bind Outcome.message? = some lostMessage ↔
        ∃ p, s.followed? a = some p ∧ eligibleSteps p.target p.counts s.content.steps = []) := by
    intro hmessage hfollowed
    simp [hmessage, hfollowed]
  have hsilent : none ≠ some lostMessage := (Option.some_ne_none _).symm
  have hnothing : some nothingHereMessage ≠ some lostMessage := by decide
  have hrefused : ∀ why : Refusal, some why.message ≠ some lostMessage := by
    intro why
    cases why <;> decide
  cases h with
  | started => exact hother hsilent rfl
  | arrived => exact hother hsilent rfl
  | nothingHere => exact hother hnothing rfl
  | notOffered guard => exact hother (hrefused _) (followed?_selectOption_eq_none guard)
  | asked offered check =>
      apply hother hsilent
      rw [followed?_selectOption offered, if_pos check]
  | chosen offered plain landing =>
      rw [followed?_selectOption offered, plain]
      exact landing.lostMessage_iff
  | notPending => exact hother (hrefused _) rfl
  | rolled => exact hother hsilent rfl
  | notDecided guard => exact hother (hrefused _) (followed?_continueCheck_eq_none guard)
  | continued awaited landing =>
      rw [followed?_continueCheck awaited]
      exact landing.lostMessage_iff
  | raised => exact hother hsilent rfl
  | left => exact hother hsilent rfl

/-- On content that was built, after every run, whatever the numbers that are drawn: an action can be
stopped only by a level for which there is no room, every action but starting and raising a stat is
answered with an outcome of one of its kinds, and it is answered with an apology exactly if the
target it follows has no step that is eligible for the player, once an option has been paid for.
There are sides to the die, and experience to a level. -/
theorem actions_succeed {source : Option String} {payload : Payload} {content : Content}
    (built : Content.build source payload = .ok content) (player : Option Player) (draws : Draws)
    (as : List Action) (a : Action) :
    let s := (begin content player draws).run as
    let t := s.perform a
    (s.attempt a = .ok t ∨
      (Player.roomLimit : Int) < t.session.player.level content.config ∧
        ∃ f, s.attempt a = .error f ∧ (f = .noRoom ∨ f = .uncountable)) ∧
    0 < content.config.xpPerLevel ∧ 1 < content.config.dieSides ∧
    (a.answers = true → ∃ o, t.outcome = some o ∧ o.kind ∈ a.kinds) ∧
    (t.outcome.bind Outcome.message? = some lostMessage ↔
      ∃ p, s.followed? a = some p ∧ eligibleSteps p.target p.counts content.steps = []) := by
  intro s t
  have hstart : (begin content player draws).content = content := by cases player <;> rfl
  have hcontent : s.content = content := (content_run _ as).trans hstart
  have hs : s.Readable := readable_run (Content.readable_of_build built) player draws as
  have hconfig : content.config.IsClamped := Content.isClamped_of_build built
  have hexit : Exit s a t := perform_exit s a
  have hattempt := hs.attempt_eq_ok_or (by rw [config, hcontent]; exact hconfig) a
  have hlost := hexit.lostMessage_iff
  rw [config, hcontent] at hattempt
  rw [hcontent] at hlost
  exact ⟨hattempt, hconfig.xpPerLevel_pos, hconfig.one_lt_dieSides, hexit.exists_kind, hlost⟩

/-- A pass is given out at the gate and has to be shown in the hall. -/
def turnstile : Json :=
  .obj [("steps", .arr [
      .obj [("id", .str "Gate"), ("text", .str "A gate."), ("tags", .arr [.str "+pass"]),
        ("options", .arr [.obj [("label", .str "Hand over the pass"), ("tags", .arr [.str "-pass"]),
          ("pass", .str "Hall")]])],
      .obj [("id", .str "Hall"), ("text", .str "A hall."), ("tags", .arr [.str "pass"])]])]

def turnstileContent : Content where
  steps :=
    [{ id := "Gate", text := "A gate.", tags := ["+pass"],
        options :=
          [{ label := "Hand over the pass", tags := ["-pass"], passTarget := some "Hall" }] },
      { id := "Hall", text := "A hall.", tags := ["pass"] }]

def atTurnstile : Session :=
  (begin turnstileContent none {}).run [.start none fun _ => none, .navigate "Gate"]

/-- The hall is open to the player until he has handed over the pass. -/
theorem actions_succeed_at_turnstile :
    Content.build none (.ofJson turnstile) = .ok turnstileContent ∧
      atTurnstile.attempt (.selectOption 0) = .ok (atTurnstile.perform (.selectOption 0)) ∧
      eligibleSteps "Hall" (atTurnstile.player.effectiveCounts {}) turnstileContent.steps ≠ [] ∧
      ∃ p, atTurnstile.followed? (.selectOption 0) = some p ∧ p.target = "Hall" ∧
        eligibleSteps p.target p.counts turnstileContent.steps = [] := by
  have hbuilt : Content.build none (.ofJson turnstile) = .ok turnstileContent := rfl
  obtain ⟨hattempt, -, -, -, hlost⟩ := actions_succeed hbuilt none {}
    [.start none fun _ => none, .navigate "Gate"] (.selectOption 0)
  rw [← atTurnstile] at hattempt hlost
  have hroom : ¬ (Player.roomLimit : Int) <
      (atTurnstile.perform (.selectOption 0)).session.player.level turnstileContent.config := by
    decide +kernel
  have hanswer : (atTurnstile.perform (.selectOption 0)).outcome.bind Outcome.message? =
      some lostMessage := by
    decide +kernel
  obtain ⟨p, hp, hnone⟩ := hlost.mp hanswer
  have htarget : (atTurnstile.followed? (.selectOption 0)).map (·.target) = some "Hall" := by
    decide +kernel
  rw [hp] at htarget
  exact ⟨hbuilt, hattempt.resolve_right fun h => hroom h.1, by decide +kernel, p, hp,
    Option.some.inj htarget, hnone⟩

end Session

end Questline
