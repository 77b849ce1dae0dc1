import Questline.Play.Conversation
import Questline.Proofs.Session.Coherence
import Questline.Proofs.Session.Success

/-!
# Where a conversation stands

A line of input after the other, a conversation stands somewhere until it is
over.  Either a character is being made and the session is still what it was at
the beginning; or the session is the outcome of a run of actions, past the
making of a character, and the stage of the conversation goes by its phase.
-/

namespace Questline

namespace Session

variable {s : Session} {a : Action} {t : Turn}

/-! ## Past the making of a character -/

theorem restPhase_ne_characterCreation (p : Player) : restPhase p ≠ .characterCreation := by
  unfold restPhase
  split <;> decide

theorem Landing.phase_ne_characterCreation {earlier : Option Mutations} {target : Option String}
    (h : Landing s earlier target t) : t.session.phase ≠ .characterCreation := by
  cases h with
  | shown =>
      simp only [load, keep, showPhase]
      split <;> decide
  | lost => exact restPhase_ne_characterCreation _
  | ended => exact restPhase_ne_characterCreation _

/-- Only starting a game leads out of the making of a character, and nothing leads back. -/
theorem Exit.phase_ne_characterCreation (h : Exit s a t)
    (hs : s.phase ≠ .characterCreation ∨ ∃ name chosen, a = .start name chosen) :
    t.session.phase ≠ .characterCreation := by
  have hpast : (∀ name chosen, a ≠ .start name chosen) → s.phase ≠ .characterCreation := by
    intro hother
    rcases hs with hs | ⟨name, chosen, rfl⟩
    · exact hs
    · exact absurd rfl (hother name chosen)
  cases h with
  | started => exact Phase.noConfusion
  | arrived =>
      simp only [load, keep, showPhase]
      split <;> decide
  | nothingHere => exact Phase.noConfusion
  | notOffered => exact hpast fun _ _ => Action.noConfusion
  | asked => exact Phase.noConfusion
  | chosen _ _ landing => exact landing.phase_ne_characterCreation
  | notPending => exact hpast fun _ _ => Action.noConfusion
  | rolled => exact Phase.noConfusion
  | notDecided => exact hpast fun _ _ => Action.noConfusion
  | continued _ landing => exact landing.phase_ne_characterCreation
  | raised stat =>
      simp only [increaseStat, keep]
      split <;> decide
  | left => exact restPhase_ne_characterCreation _

theorem perform_of_attempt_eq_ok (h : s.attempt a = .ok t) : t = s.perform a := by
  obtain ⟨_, -, h⟩ := bind_eq_ok_iff.mp h
  exact (Except.ok.inj h).symm

end Session

/-- A character is being made. -/
def Stage.isMaking : Stage → Bool
  | naming => true
  | raising _ _ _ => true
  | _ => false

theorem Stage.isMaking_ofPhase {phase : Phase} (h : phase ≠ .characterCreation) :
    (Stage.ofPhase phase).isMaking = false := by
  cases phase with
  | characterCreation => contradiction
  | _ => rfl

/-- The commands are none of the actions. -/
def Order.isCommand : Order → Bool
  | status => true
  | log => true
  | quit => true
  | _ => false

/-- The next point of a conversation, unless it is over. -/
def Progress.play? : Progress → Option Play
  | goesOn p => some p
  | _ => none

namespace Play

variable {start : Session} {p q : Play} {line : String}

/-- Where a conversation stands after some lines of input, unless it is over by then. -/
def after? (p : Play) : List String → Option Play
  | [] => some p
  | line :: rest => (p.answer line).next.play?.bind fun q => q.after? rest

/-- The same from the beginning of a conversation. -/
def reached? (s : Session) (lines : List String) : Option Play :=
  (opening s).next.play?.bind fun p => p.after? lines

/-! ## What lines are understood as -/

theorem spending_cases (name : String) (stats : Stats) (hints : List String) (points : Nat) :
    (∃ chosen, spending name stats hints points = .perform (.start (some name) chosen)) ∨
      ∃ left, spending name stats hints points = .spend name stats left hints := by
  cases points with
  | zero => exact .inl ⟨_, rfl⟩
  | succ points => exact .inr ⟨_, rfl⟩

theorem isCommand_of_command? {choice : String} {o : Order} (h : command? choice = some o) :
    o.isCommand = true := by
  unfold command? at h
  split at h <;> cases h <;> rfl

/-- What can be made of a line at each stage; `choice` is what is typed in lower case. -/
inductive Understood (p : Play) (choice : String) : Order → Prop
  | made {name : String} {stats : Stats} {hints : List String} {points : Nat}
      (stage : p.stage.isMaking = true) : Understood p choice (spending name stats hints points)
  | raised {stat : Stat} (stage : p.stage = .improving) :
      Understood p choice (.perform (.increaseStat stat))
  | travelled {location : String} (stage : p.stage = .travelling) :
      Understood p choice (.perform (.navigate location))
  | left (stage : p.stage = .choosing) (blank : choice.isEmpty = true)
      (way : canLeave p.session = true) : Understood p choice (.perform .leave)
  | selected {n : Int} (stage : p.stage = .choosing) (digits : isNumber choice = true)
      (number : Text.integer? choice = some n) :
      Understood p choice (.perform (.selectOption (n - 1)))
  | unreadable (stage : p.stage = .choosing) (digits : isNumber choice = true)
      (number : Text.integer? choice = none) : Understood p choice .unreadable
  | rolled (stage : p.stage = .rolling) : Understood p choice (.perform (.rollCheck none))
  | continued (stage : p.stage = .continuing) : Understood p choice (.perform .continueCheck)
  | commanded {o : Order} (command : o.isCommand = true) : Understood p choice o
  | ignored {hints : List String} : Understood p choice (.ignore hints)

theorem choosing_understood (stage : p.stage = .choosing) (choice : String) :
    Understood p choice (choosing p.session choice) := by
  unfold choosing
  split
  · next h =>
      rw [Bool.and_eq_true] at h
      exact .left stage h.1 h.2
  · cases hcommand : command? choice with
    | some o => exact .commanded (isCommand_of_command? hcommand)
    | none =>
        rw [Option.getD_none]
        split
        · next digits =>
            unfold numbered
            split
            · next n number => exact .selected stage digits number
            · next number => exact .unreadable stage digits number
        · exact .ignored

theorem understand_understood (p : Play) (line : String) :
    Understood p (Text.lower (Text.trim line)) (p.understand line) := by
  unfold understand
  cases hstage : p.stage with
  | naming => exact .made (by rw [hstage]; rfl)
  | raising name stats points =>
      have hmaking : p.stage.isMaking = true := by rw [hstage]; rfl
      simp only [raising]
      split <;> exact .made hmaking
  | improving =>
      simp only [improving]
      split
      · exact .raised hstage
      · exact .ignored
  | travelling =>
      simp only [travelling]
      split
      · exact .ignored
      · cases hcommand : command? (Text.lower (Text.trim line)) with
        | some o => exact .commanded (isCommand_of_command? hcommand)
        | none => exact .travelled hstage
  | choosing => exact choosing_understood hstage _
  | rolling => exact .rolled hstage
  | continuing => exact .continued hstage

theorem command?_of_isNumber {choice : String} (digits : isNumber choice = true) :
    command? choice = none := by
  unfold command?
  split
  · contradiction
  · contradiction
  · contradiction
  · rfl

/-- A number that is typed at a step on display is taken for the number of an option. -/
theorem choosing_of_isNumber {choice : String} (digits : isNumber choice = true) (s : Session) :
    choosing s choice = numbered choice := by
  have hgiven : choice.isEmpty = false := by
    simp only [isNumber, Bool.and_eq_true, Bool.not_eq_true'] at digits
    exact digits.1
  rw [choosing, hgiven, command?_of_isNumber digits, Bool.false_and, if_neg Bool.false_ne_true,
    Option.getD_none, if_pos digits]

theorem understand_of_choosing (stage : p.stage = .choosing) (line : String) :
    p.understand line = choosing p.session (Text.lower (Text.trim line)) := by
  rw [understand, stage]

/-- What cannot be read is a number that was typed at a step on display. -/
theorem Understood.of_unreadable {choice : String} {o : Order} (h : Understood p choice o)
    (ho : o = .unreadable) :
    p.stage = .choosing ∧ isNumber choice = true ∧ Text.integer? choice = none := by
  cases h with
  | unreadable stage digits number => exact ⟨stage, digits, number⟩
  | @made name stats hints points _ =>
      rcases spending_cases name stats hints points with ⟨chosen, heq⟩ | ⟨left, heq⟩ <;>
      · rw [heq] at ho
        contradiction
  | commanded command =>
      rw [ho] at command
      contradiction
  | _ => contradiction

/-- At a step on display nothing is an action but leaving it and choosing an option. -/
theorem Understood.of_choosing {choice : String} {o : Order} {a : Session.Action}
    (h : Understood p choice o) (ho : o = .perform a) (stage : p.stage = .choosing) :
    (a = .leave ∧ canLeave p.session = true) ∨ ∃ n, a = .selectOption n := by
  cases h with
  | made other =>
      rw [stage] at other
      contradiction
  | raised other | travelled other | rolled other | continued other =>
      rw [stage] at other
      contradiction
  | left _ _ way =>
      obtain rfl := Order.perform.inj ho
      exact .inl ⟨rfl, way⟩
  | selected =>
      obtain rfl := Order.perform.inj ho
      exact .inr ⟨_, rfl⟩
  | unreadable => contradiction
  | commanded command =>
      rw [ho] at command
      contradiction
  | ignored => contradiction

theorem Understood.isMaking_eq_false_or {choice : String} {o : Order} {a : Session.Action}
    (h : Understood p choice o) (ho : o = .perform a) :
    p.stage.isMaking = false ∨ ∃ name chosen, a = .start name chosen := by
  cases h with
  | @made name stats hints points _ =>
      rcases spending_cases name stats hints points with ⟨chosen, heq⟩ | ⟨left, heq⟩
      · rw [heq] at ho
        exact .inr ⟨_, _, (Order.perform.inj ho).symm⟩
      · rw [heq] at ho
        contradiction
  | commanded command =>
      rw [ho] at command
      contradiction
  | ignored => contradiction
  | unreadable => contradiction
  | raised stage | travelled stage | left stage | selected stage | rolled stage
  | continued stage =>
      left
      rw [stage]
      rfl

/-- Points are spent while a character is being made, and at no other stage. -/
theorem Understood.isMaking_of_spend {choice name : String} {stats : Stats} {points : Nat}
    {hints : List String} {o : Order} (h : Understood p choice o)
    (ho : o = .spend name stats points hints) : p.stage.isMaking = true := by
  cases h with
  | made stage => exact stage
  | commanded command =>
      rw [ho] at command
      contradiction
  | _ => contradiction

/-! ## Where answers lead -/

theorem goesOn_of_play? {progress : Progress} (h : progress.play? = some q) :
    progress = .goesOn q := by
  cases progress with
  | goesOn p =>
      obtain rfl := Option.some.inj h
      rfl
  | finished => contradiction
  | failed => contradiction

/-- Where a conversation that began with a session can stand: at the making of a character, with the
session untouched, or past it, at the stage of a phase that a run of actions has led to. -/
inductive Stands (start : Session) (p : Play) : Prop
  | making (fresh : start.phase = .characterCreation) (session : p.session = start)
      (stage : p.stage.isMaking = true)
  | playing (as : List Session.Action) (session : p.session = start.run as)
      (past : p.session.phase ≠ .characterCreation) (stage : p.stage = .ofPhase p.session.phase)

theorem Stands.exists_run (h : Stands start p) : ∃ as, p.session = start.run as := by
  cases h with
  | making _ session _ => exact ⟨[], session⟩
  | playing as session _ _ => exact ⟨as, session⟩

/-- Actions past the making of a character, and the start of a game, lead to where a conversation
can stand. -/
theorem Stands.perform (h : Stands start p) {a : Session.Action}
    (ha : p.stage.isMaking = false ∨ ∃ name chosen, a = .start name chosen) :
    Stands start ⟨(p.session.perform a).session, .ofPhase (p.session.perform a).session.phase⟩ := by
  obtain ⟨as, hrun⟩ := h.exists_run
  have hphase : p.session.phase ≠ .characterCreation ∨ ∃ name chosen, a = .start name chosen := by
    refine ha.imp_left fun hstage => ?_
    cases h with
    | making _ _ stage =>
        rw [stage] at hstage
        contradiction
    | playing _ _ past _ => exact past
  refine .playing (as ++ [a]) ?_ ?_ rfl
  · rw [Session.run_append, ← hrun]
    rfl
  · exact (Session.perform_exit p.session a).phase_ne_characterCreation hphase

/-- Only a line that cannot be written keeps a conversation from going on as drafted. -/
theorem next_reply_cases (d : Draft) :
    ((∀ l ∈ d.lines, l.isWritable = true) ∧ d.reply.next = d.next) ∨
      (∃ l ∈ d.lines, l.isWritable = false) ∧
        d.reply.next = .failed d.next.session .unreadableNumber := by
  cases hall : d.lines.all (·.isWritable) with
  | true => exact .inl ⟨List.all_eq_true.mp hall, if_pos hall⟩
  | false =>
      obtain ⟨l, hl, hlong⟩ := List.all_eq_false.mp hall
      exact .inr ⟨⟨l, hl, by simpa using hlong⟩, if_neg (by simp [hall])⟩

theorem next_of_reply {d : Draft} (h : d.reply.next = .goesOn q) : d.next = .goesOn q := by
  rcases next_reply_cases d with ⟨-, hnext⟩ | ⟨-, hnext⟩
  · rw [← hnext, h]
  · rw [hnext] at h
    contradiction

theorem Stands.answer (h : Stands start p) (hnext : (p.answer line).next = .goesOn q) :
    Stands start q := by
  have hunderstood := understand_understood p line
  replace hnext : (p.obey (p.understand line)).next = .goesOn q := next_of_reply hnext
  -- what the line is understood as is taken apart only once its case is known
  generalize p.understand line = o at hunderstood hnext
  cases o with
  | perform a =>
      have ha := hunderstood.isMaking_eq_false_or rfl
      cases hattempt : p.session.attempt a with
      | ok turn =>
          obtain rfl := Session.perform_of_attempt_eq_ok hattempt
          simp only [obey, act, hattempt, arrive] at hnext
          obtain rfl := Progress.goesOn.inj hnext
          exact h.perform ha
      | error f =>
          simp only [obey, act, hattempt] at hnext
          contradiction
  | spend name stats points hints =>
      obtain rfl := Progress.goesOn.inj hnext
      cases h with
      | making fresh session _ => exact .making fresh session rfl
      | playing _ _ past stage =>
          have hmaking := hunderstood.isMaking_of_spend rfl
          rw [stage, Stage.isMaking_ofPhase past] at hmaking
          contradiction
  | status | log | ignore hints =>
      obtain rfl := Progress.goesOn.inj hnext
      exact h
  | quit => contradiction
  | unreadable => contradiction

theorem Stands.after? (h : Stands start p) {lines : List String} (hq : p.after? lines = some q) :
    Stands start q := by
  induction lines generalizing p with
  | nil =>
      obtain rfl := Option.some.inj hq
      exact h
  | cons line rest ih =>
      obtain ⟨r, hr, hq⟩ := Option.bind_eq_some_iff.mp hq
      exact ih (h.answer (goesOn_of_play? hr)) hq

/-- Wherever a conversation stands, it can stand there. -/
theorem stands_of_reached? {lines : List String} (hq : reached? start lines = some q) :
    Stands start q := by
  obtain ⟨p, hp, hq⟩ := Option.bind_eq_some_iff.mp hq
  have hopening : (arrive [] [] start).next = .goesOn p := next_of_reply (goesOn_of_play? hp)
  obtain rfl := Progress.goesOn.inj hopening
  have hstart : Stands start ⟨start, .ofPhase start.phase⟩ := by
    by_cases hphase : start.phase = .characterCreation
    · exact .making hphase rfl (by rw [hphase]; rfl)
    · exact .playing [] rfl hphase rfl
  exact hstart.after? hq

section Begun

variable {source : Option String} {payload : Payload} {content : Content} {player : Option Player}
  {draws : Draws} {lines : List String}

theorem content_of_reached? (hq : reached? (.begin content player draws) lines = some q) :
    q.session.content = content := by
  obtain ⟨as, hrun⟩ := (stands_of_reached? hq).exists_run
  rw [hrun, Session.content_run]
  cases player <;> rfl

theorem coherent_of_reached? (hq : reached? (.begin content player draws) lines = some q) :
    q.session.Coherent := by
  obtain ⟨as, hrun⟩ := (stands_of_reached? hq).exists_run
  rw [hrun]
  exact Session.coherent_run content player draws as

theorem readable_of_reached? (built : Content.build source payload = .ok content)
    (hq : reached? (.begin content player draws) lines = some q) : q.session.Readable := by
  obtain ⟨as, hrun⟩ := (stands_of_reached? hq).exists_run
  rw [hrun]
  exact Session.readable_run (Content.readable_of_build built) player draws as

theorem isClamped_of_reached? (built : Content.build source payload = .ok content)
    (hq : reached? (.begin content player draws) lines = some q) :
    q.session.config.IsClamped := by
  rw [Session.config, content_of_reached? hq]
  exact Content.isClamped_of_build built

end Begun

end Play

end Questline
