import Questline.Content.Build
import Questline.Proofs.Play.Standing
import Questline.Proofs.Text.Numerals

/-!
# How conversations end

A conversation asks once for each line that it reads, and once more when there
are no lines left.  It ends with a farewell unless it breaks off, and what
breaks it off is a number: one that was typed to choose an option and cannot be
read, one that is about to be said and too long to be written, or a level for
which there is no room.
-/

namespace Questline

def PlayEvent.prompt? : PlayEvent → Option String
  | asked prompt => some prompt
  | _ => none

def Progress.fault? : Progress → Option Fault
  | failed _ f => some f
  | _ => none

namespace Play

/-- Everything that was asked, in order. -/
def Transcript.prompts (t : Transcript) : List String := t.events.filterMap PlayEvent.prompt?

variable {start s : Session} {p q : Play} {line : String} {lines : List String} {f : Fault}

/-! ## Replies -/

theorem filterMap_prompt?_said (xs : List String) :
    (xs.map PlayEvent.said).filterMap PlayEvent.prompt? = [] := by
  rw [List.filterMap_map]
  exact List.filterMap_eq_nil_iff.mpr fun _ _ => rfl

theorem filterMap_prompt?_kept (ps : List Player) :
    (ps.map PlayEvent.kept).filterMap PlayEvent.prompt? = [] := by
  rw [List.filterMap_map]
  exact List.filterMap_eq_nil_iff.mpr fun _ _ => rfl

theorem prompts_reply (d : Draft) :
    d.reply.events.filterMap PlayEvent.prompt? = d.events.filterMap PlayEvent.prompt? := by
  have hsaid : ∀ ls : List Screen.Line,
      (ls.map fun l => PlayEvent.said l.text).filterMap PlayEvent.prompt? = [] := by
    intro ls
    rw [← filterMap_prompt?_said (ls.map (·.text)), List.map_map]
    rfl
  rw [Draft.reply, List.filterMap_append, hsaid, List.append_nil]

theorem prompts_obey (p : Play) (o : Order) :
    (p.obey o).events.filterMap PlayEvent.prompt? = [] := by
  cases o with
  | perform a =>
      simp only [obey, act, arrive]
      split
      · rw [List.filterMap_append, filterMap_prompt?_said, filterMap_prompt?_kept, List.append_nil]
      · exact filterMap_prompt?_said _
  | _ => rfl

/-- Nothing is asked in an answer. -/
theorem prompts_answer (p : Play) (line : String) :
    (p.answer line).events.filterMap PlayEvent.prompt? = [] :=
  (prompts_reply _).trans (prompts_obey p _)

theorem obey_of_finished {o : Order} (h : (p.obey o).next = .finished s) : o = .quit := by
  cases o with
  | perform a =>
      simp only [obey, act, arrive] at h
      split at h <;> contradiction
  | quit => rfl
  | _ => contradiction

/-- Who quits is bid farewell. -/
theorem getLast?_answer (h : (p.answer line).next = .finished s) :
    (p.answer line).events.getLast? = some (.said farewell) := by
  have hnext : (p.draft line).next = .finished s := by
    rcases next_reply_cases (p.draft line) with ⟨-, hnext⟩ | ⟨-, hnext⟩
    · rw [← hnext]
      exact h
    · rw [answer, hnext] at h
      contradiction
  rw [answer, draft, obey_of_finished hnext]
  rfl

/-! ## Scripts -/

theorem script_cons (p : Play) (line : String) (rest : List String) :
    p.script (line :: rest) =
      let t := followed (p.answer line) fun q => q.script rest
      { t with events := .asked p.stage.prompt :: t.events } := rfl

theorem getLast?_script (h : (p.script lines).fault = none) :
    (p.script lines).events.getLast? = some (.said farewell) := by
  induction lines generalizing p with
  | nil => rfl
  | cons line rest ih =>
      rw [script_cons] at h ⊢
      simp only [followed] at h ⊢
      cases hnext : (p.answer line).next with
      | goesOn q =>
          simp only [hnext] at h ⊢
          rw [List.getLast?_cons, List.getLast?_append, ih h]
          rfl
      | finished s =>
          rw [List.getLast?_cons, getLast?_answer hnext]
          rfl
      | failed s f =>
          simp only [hnext] at h
          contradiction

theorem length_prompts_script_le (p : Play) (lines : List String) :
    (p.script lines).prompts.length ≤ lines.length + 1 := by
  induction lines generalizing p with
  | nil => exact Nat.le_refl 1
  | cons line rest ih =>
      rw [script_cons]
      simp only [followed, Transcript.prompts]
      cases hnext : (p.answer line).next with
      | goesOn q =>
          have hq := ih q
          simp only [List.filterMap_cons, List.filterMap_append, prompts_answer, PlayEvent.prompt?,
            List.nil_append, List.length_cons]
          exact Nat.succ_le_succ hq
      | finished s =>
          simp [prompts_answer, PlayEvent.prompt?]
      | failed s f =>
          simp [prompts_answer, PlayEvent.prompt?]

/-- A script breaks off where a line that it comes to cannot be answered. -/
theorem fault_script_iff :
    (p.script lines).fault = some f ↔
      ∃ before line rest q, lines = before ++ line :: rest ∧ p.after? before = some q ∧
        (q.answer line).next.fault? = some f := by
  induction lines generalizing p with
  | nil => simp [script]
  | cons line rest ih =>
      rw [script_cons]
      simp only [followed]
      constructor
      · intro h
        cases hnext : (p.answer line).next with
        | goesOn q =>
            rw [hnext] at h
            obtain ⟨before, line', rest', r, rfl, hr, hfault⟩ := ih.mp h
            refine ⟨line :: before, line', rest', r, rfl, ?_, hfault⟩
            rw [after?, hnext]
            exact hr
        | finished s =>
            rw [hnext] at h
            contradiction
        | failed s g =>
            rw [hnext] at h
            refine ⟨[], line, rest, p, rfl, rfl, ?_⟩
            rw [hnext]
            exact h
      · rintro ⟨before, line', rest', q, hread, hq, hfault⟩
        cases before with
        | nil =>
            obtain ⟨rfl, rfl⟩ := List.cons.inj hread
            obtain rfl := Option.some.inj hq
            cases hnext : (p.answer line).next with
            | failed s g =>
                rw [hnext] at hfault
                exact hfault
            | _ =>
                rw [hnext] at hfault
                contradiction
        | cons first before =>
            obtain ⟨rfl, rfl⟩ := List.cons.inj hread
            obtain ⟨r, hr, hq⟩ := Option.bind_eq_some_iff.mp hq
            rw [goesOn_of_play? hr]
            exact ih.mpr ⟨before, line', rest', q, rfl, hq, hfault⟩

theorem next_opening_ne_finished (s t : Session) : (opening s).next ≠ .finished t := by
  rcases next_reply_cases (arrive [] [] s) with ⟨-, hnext⟩ | ⟨-, hnext⟩
  · rw [opening, hnext]
    nofun
  · rw [opening, hnext]
    nofun

theorem getLast?_whole (h : (whole start lines).fault = none) :
    (whole start lines).events.getLast? = some (.said farewell) := by
  unfold whole followed at h ⊢
  cases hnext : (opening start).next with
  | goesOn p =>
      simp only [hnext] at h ⊢
      rw [List.getLast?_append, getLast?_script h]
      rfl
  | finished s => exact absurd hnext (next_opening_ne_finished start s)
  | failed s g =>
      simp only [hnext] at h
      contradiction

theorem length_prompts_whole_le (start : Session) (lines : List String) :
    (whole start lines).prompts.length ≤ lines.length + 1 := by
  have hopening : (opening start).events.filterMap PlayEvent.prompt? = [] := prompts_reply _
  unfold whole followed Transcript.prompts
  cases hnext : (opening start).next with
  | goesOn p =>
      simp only [List.filterMap_append, hopening, List.nil_append]
      exact length_prompts_script_le p lines
  | finished s => simp [hopening]
  | failed s g => simp [hopening]

theorem fault_whole_iff :
    (whole start lines).fault = some f ↔
      (opening start).next.fault? = some f ∨
        ∃ before line rest q, lines = before ++ line :: rest ∧ reached? start before = some q ∧
          (q.answer line).next.fault? = some f := by
  unfold whole followed
  cases hnext : (opening start).next with
  | goesOn p =>
      have hreached : reached? start = p.after? := by
        funext before
        rw [reached?, hnext]
        rfl
      rw [hreached, ← fault_script_iff]
      simp [Progress.fault?]
  | finished s => simp [Progress.fault?, reached?, hnext, Progress.play?]
  | failed s g => simp [Progress.fault?, reached?, hnext, Progress.play?]

/-! ## What breaks a conversation off -/

/-- The answer to a line fails.  The number of an option cannot be read if one of its digits is no
decimal digit, or if there are too many of them. -/
inductive Stops (p : Play) (line : String) : Fault → Prop
  | unreadable (stage : p.stage = .choosing)
      (digits : isNumber (Text.lower (Text.trim line)) = true)
      (number : (∃ d ∈ (Text.lower (Text.trim line)).toList, Text.isDecimalDigit d = false) ∨
        Text.digitLimit < (Text.lower (Text.trim line)).toList.length) :
      Stops p line .unreadableNumber
  | crowded {a : Session.Action} {f : Fault} (order : p.understand line = .perform a)
      (stopped : p.session.attempt a = .error f) (kind : f = .noRoom ∨ f = .uncountable)
      (level : (Player.roomLimit : Int) <
        (p.session.perform a).session.player.level p.session.config) : Stops p line f
  | unwritable {l : Screen.Line} (said : l ∈ (p.draft line).lines) (long : l.isWritable = false) :
      Stops p line .unreadableNumber

theorem integer?_eq_none_iff_of_isNumber {choice : String} (digits : isNumber choice = true) :
    Text.integer? choice = none ↔
      (∃ d ∈ choice.toList, Text.isDecimalDigit d = false) ∨
        Text.digitLimit < choice.toList.length := by
  simp only [isNumber, Bool.and_eq_true, Bool.not_eq_true'] at digits
  refine Text.integer?_eq_none_iff ?_ (List.all_eq_true.mp digits.2)
  intro hnil
  rw [String.toList_eq_nil_iff.mp hnil] at digits
  exact absurd digits.1 (by decide)

theorem fault?_reply_iff {d : Draft} :
    d.reply.next.fault? = some f ↔
      ((∃ l ∈ d.lines, l.isWritable = false) ∧ f = .unreadableNumber) ∨
        ((∀ l ∈ d.lines, l.isWritable = true) ∧ d.next.fault? = some f) := by
  rcases next_reply_cases d with ⟨hall, hnext⟩ | ⟨⟨l, hl, hlong⟩, hnext⟩
  · rw [hnext]
    constructor
    · exact fun h => .inr ⟨hall, h⟩
    · rintro (⟨⟨l, hl, hlong⟩, -⟩ | ⟨-, h⟩)
      · rw [hall l hl] at hlong
        contradiction
      · exact h
  · rw [hnext]
    constructor
    · intro h
      exact .inl ⟨⟨l, hl, hlong⟩, (Option.some.inj h).symm⟩
    · rintro (⟨-, rfl⟩ | ⟨hall, -⟩)
      · rfl
      · rw [hall l hl] at hlong
        contradiction

theorem fault?_obey_iff {o : Order} :
    (p.obey o).next.fault? = some f ↔
      (o = .unreadable ∧ f = .unreadableNumber) ∨
        ∃ a, o = .perform a ∧ p.session.attempt a = .error f := by
  cases o with
  | perform a =>
      cases hattempt : p.session.attempt a with
      | ok turn => simp [obey, act, hattempt, arrive, Progress.fault?]
      | error g => simp [obey, act, hattempt, Progress.fault?]
  | unreadable => simp [obey, Progress.fault?, eq_comm]
  | _ => simp [obey, stay, Progress.fault?]

/-- Where a draft fails there is nothing to say. -/
theorem lines_of_fault?_obey {o : Order} (h : (p.obey o).next.fault? = some f) :
    (p.obey o).lines = [] := by
  rcases fault?_obey_iff.mp h with ⟨rfl, -⟩ | ⟨a, rfl, hstopped⟩
  · rfl
  · simp only [obey, act, hstopped]

theorem fault?_answer_of_draft (h : (p.draft line).next.fault? = some f) :
    (p.answer line).next.fault? = some f := by
  rw [answer, fault?_reply_iff, draft, lines_of_fault?_obey h]
  exact .inr ⟨nofun, h⟩

/-- On content that was built an answer fails in these ways only. -/
theorem fault?_answer_iff (hs : p.session.Readable) (hconfig : p.session.config.IsClamped) :
    (p.answer line).next.fault? = some f ↔ p.Stops line f := by
  constructor
  · rw [answer, fault?_reply_iff]
    rintro (⟨⟨l, hl, hlong⟩, rfl⟩ | ⟨-, hfault⟩)
    · exact .unwritable hl hlong
    · rcases fault?_obey_iff.mp hfault with ⟨horder, rfl⟩ | ⟨a, horder, hstopped⟩
      · obtain ⟨stage, digits, number⟩ := (understand_understood p line).of_unreadable horder
        exact .unreadable stage digits ((integer?_eq_none_iff_of_isNumber digits).mp number)
      · rcases hs.attempt_eq_ok_or hconfig a with hok | ⟨level, g, hg, kind⟩
        · rw [hok] at hstopped
          contradiction
        · obtain rfl := Except.error.inj (hg.symm.trans hstopped)
          exact .crowded horder hstopped kind level
  · intro h
    cases h with
    | unreadable stage digits number =>
        apply fault?_answer_of_draft
        rw [draft, fault?_obey_iff, understand_of_choosing stage, choosing_of_isNumber digits,
          numbered, (integer?_eq_none_iff_of_isNumber digits).mpr number]
        exact .inl ⟨rfl, rfl⟩
    | crowded order stopped _ _ =>
        apply fault?_answer_of_draft
        rw [draft, fault?_obey_iff]
        exact .inr ⟨_, order, stopped⟩
    | unwritable said long =>
        rw [answer, fault?_reply_iff]
        exact .inl ⟨⟨_, said, long⟩, rfl⟩

/-- A conversation breaks off at its opening, where a level may be too high to be written, or at a
line that it comes to. -/
inductive Breaks (start : Session) (lines : List String) : Fault → Prop
  | opening {l : Screen.Line} (said : l ∈ arrivalLines start) (long : l.isWritable = false) :
      Breaks start lines .unreadableNumber
  | later {before rest : List String} {line : String} {q : Play} {f : Fault}
      (read : lines = before ++ line :: rest) (reached : reached? start before = some q)
      (stops : q.Stops line f) : Breaks start lines f

theorem fault?_opening_iff :
    (opening start).next.fault? = some f ↔
      (∃ l ∈ arrivalLines start, l.isWritable = false) ∧ f = .unreadableNumber := by
  rw [opening, fault?_reply_iff]
  simp [arrive, Progress.fault?]

/-- On content that was built, whatever lines are typed: a conversation ends with a farewell unless
it breaks off, and it breaks off only at a number that cannot be read or written and at a level for
which there is no room.  It asks no more often than there are lines, and once more at their end.
Wherever it stands, the stage goes by the phase of the session, once a character has been made. -/
theorem conversation_ends {source : Option String} {payload : Payload} {content : Content}
    (built : Content.build source payload = .ok content) (player : Option Player) (draws : Draws)
    (lines : List String) :
    let start := Session.begin content player draws
    let t := whole start lines
    (t.fault = none → t.events.getLast? = some (.said farewell)) ∧
      (∀ f, t.fault = some f ↔ Breaks start lines f) ∧
      t.prompts.length ≤ lines.length + 1 ∧
      ∀ before q, reached? start before = some q → Stands start q := by
  intro start t
  have hanswer : ∀ {before line q f}, reached? start before = some q →
      ((q.answer line).next.fault? = some f ↔ q.Stops line f) := fun reached =>
    fault?_answer_iff (readable_of_reached? built reached) (isClamped_of_reached? built reached)
  refine ⟨getLast?_whole, fun f => ?_, length_prompts_whole_le start lines,
    fun before q => stands_of_reached?⟩
  rw [fault_whole_iff, fault?_opening_iff]
  constructor
  · rintro (⟨⟨l, hl, hlong⟩, rfl⟩ | ⟨before, line, rest, q, read, reached, hfault⟩)
    · exact .opening hl hlong
    · exact .later read reached ((hanswer reached).mp hfault)
  · rintro (⟨said, long⟩ | ⟨read, reached, stops⟩)
    · exact .inl ⟨⟨_, said, long⟩, rfl⟩
    · exact .inr ⟨_, _, _, _, read, reached, (hanswer reached).mpr stops⟩

/-- A gate that can only be forced. -/
def gateContent : Content where
  steps := [{ id := "Gate", text := "A gate.", options := [Session.forceGate] }]

/-- Five stages on the way to a farewell, with a word where a number was asked for. -/
theorem conversation_ends_after_check :
    let t := whole (.begin gateContent none {}) ["Ada", "gate", "one", "1", "", "", "Q", "I"]
    Content.build none (.ofJson Session.unfinishedGate) = .ok gateContent ∧
      t.events.getLast? = some (.said farewell) ∧ t.prompts.length ≤ 9 := by
  intro t
  have hbuilt : Content.build none (.ofJson Session.unfinishedGate) = .ok gateContent := rfl
  have hwhole : t.fault = none := by decide +kernel
  obtain ⟨hfarewell, -, hprompts, -⟩ :=
    conversation_ends hbuilt none {} ["Ada", "gate", "one", "1", "", "", "Q", "I"]
  exact ⟨hbuilt, hfarewell hwhole, hprompts⟩

/-- A superscript counts as a digit, but no number is read from it. -/
theorem conversation_can_break :
    let t := whole (.begin gateContent (some {}) {}) ["Gate", "²"]
    Content.build none (.ofJson Session.unfinishedGate) = .ok gateContent ∧
      t.fault = some .unreadableNumber ∧
      t.events.getLast?.bind PlayEvent.prompt? = some Stage.choosing.prompt := by
  refine ⟨rfl, ?_, ?_⟩
  · decide +kernel
  · decide +kernel

end Play

end Questline
