import Questline.Execution
import Questline.Proofs.Table
import Mathlib.Data.List.Infix
import Mathlib.Data.List.TakeDrop

/-!
# Settling variables

A declared variable owns the names of its fields.  As long as no declared name
belongs to another, each declaration settles what it owns and nothing else, so
that the order of the declarations tells only who draws which number.
-/

namespace Questline

variable {name other v : String} {p : Player} {vars : Declarations} {draws : Draws}

/-! ## Names and fields -/

/-- The names that belong to a variable: its own and those of its fields. -/
def Owns (name v : String) : Prop := v = name ∨ Text.leads (name ++ ".") v = true

instance (name v : String) : Decidable (Owns name v) := inferInstanceAs (Decidable (_ ∨ _))

theorem leads_iff_isPrefix {lead s : String} :
    Text.leads lead s = true ↔ lead.toList <+: s.toList := by
  simp only [Text.leads, Option.isSome_iff_exists, Text.afterLead?_eq_some]
  exact exists_congr fun rest => eq_comm

theorem owns_iff_isPrefix : Owns name v ↔ v = name ∨ name.toList ++ ['.'] <+: v.toList := by
  rw [Owns, leads_iff_isPrefix, String.toList_append]
  rfl

theorem owns_field (name key : String) : Owns name (name ++ "." ++ key) := by
  rw [owns_iff_isPrefix, String.toList_append, String.toList_append]
  exact .inr (List.prefix_append _ _)

/-- Of two variables with a name in common one belongs to the other. -/
theorem owns_or_owns (h : Owns name v) (hother : Owns other v) :
    Owns name other ∨ Owns other name := by
  rcases h with rfl | h
  · exact .inr hother
  rcases hother with rfl | hother
  · exact .inl (.inr h)
  rw [leads_iff_isPrefix, String.toList_append] at h hother
  simp only [owns_iff_isPrefix]
  rcases List.prefix_or_prefix_of_prefix h hother with hprefix | hprefix
  · rcases List.prefix_concat_iff.mp hprefix with heq | hprefix
    · refine .inl (.inl ?_)
      rw [← String.toList_inj]
      exact (List.append_cancel_right heq).symm
    · exact .inl (.inr hprefix)
  · rcases List.prefix_concat_iff.mp hprefix with heq | hprefix
    · refine .inl (.inl ?_)
      rw [← String.toList_inj]
      exact List.append_cancel_right heq
    · exact .inr (.inr hprefix)

/-- No declared name belongs to another one; in particular no name is declared twice. -/
def Separate (vars : Declarations) : Prop :=
  vars.keys.Pairwise fun a b => ¬ Owns a b ∧ ¬ Owns b a

instance (vars : Declarations) : Decidable (Separate vars) :=
  inferInstanceAs (Decidable (List.Pairwise _ _))

/-- Two tables say the same of all that belongs to a name. -/
def AgreeOn (name : String) (t u : Table String) : Prop :=
  ∀ v, Owns name v → Table.get? v t = Table.get? v u

/-- A variable without fields. -/
def Fieldless (name : String) (t : Table String) : Prop :=
  ∀ v, Owns name v → v ≠ name → Table.get? v t = none

theorem AgreeOn.trans {t u w : Table String} (h : AgreeOn name t u) (h' : AgreeOn name u w) :
    AgreeOn name t w :=
  fun v hv => (h v hv).trans (h' v hv)

theorem AgreeOn.symm {t u : Table String} (h : AgreeOn name t u) : AgreeOn name u t :=
  fun v hv => (h v hv).symm

theorem AgreeOn.set {t u : Table String} (h : AgreeOn name t u) (s : String) :
    AgreeOn name (Table.set name s t) (Table.set name s u) := by
  intro v hv
  by_cases hname : v = name
  · rw [hname, Table.get?_set_self, Table.get?_set_self]
  · rw [Table.get?_set_of_ne hname, Table.get?_set_of_ne hname, h v hv]

/-! ## One declaration -/

/-- The variables that a choice stands for: a text is the variable, an object its fields. -/
def Choice.variables (name : String) : Choice → Table String
  | text s => [(name, s)]
  | fields fs => Table.ofPairs (fs.map fun f => (name ++ "." ++ f.1, f.2))

/-- The choice that a number draws. -/
def Choice.drawn? (choices : List Choice) (number : Nat) : Option Choice :=
  choices[number % choices.length]?

theorem get?_clearVariable (name v : String) (p : Player) :
    Table.get? v (p.clearVariable name).vars =
      if Owns name v then none else Table.get? v p.vars := by
  refine (Table.get?_filter (fun k => decide (k ≠ name) && !Text.leads (name ++ ".") k) v
    p.vars).trans ?_
  by_cases hname : v = name
  · simp [Owns, hname]
  · cases hfield : Text.leads (name ++ ".") v <;> simp [Owns, hname, hfield]

theorem get?_variables_text (name s v : String) :
    Table.get? v ((Choice.text s).variables name) = if v = name then some s else none := by
  by_cases hname : v = name
  · simp [Choice.variables, Table.get?, hname]
  · simp [Choice.variables, Table.get?, hname, Ne.symm hname]

theorem get?_variables_eq_none (h : ¬ Owns name v) (choice : Choice) :
    Table.get? v (choice.variables name) = none := by
  cases choice with
  | text s =>
      rw [get?_variables_text]
      exact if_neg fun hname => h (.inl hname)
  | fields fs =>
      apply Table.get?_ofPairs_eq_none
      intro hmem
      simp only [Table.keys, List.map_map, List.mem_map, Function.comp_apply] at hmem
      obtain ⟨f, -, rfl⟩ := hmem
      exact h (owns_field name f.1)

/-- An object takes the place of all that a variable had; a text leaves the fields as they are. -/
theorem get?_assignChoice (name v : String) (p : Player) (choice : Choice) :
    Table.get? v (assignChoice name p choice).vars =
      (Table.get? v (choice.variables name)).or
        (match choice with
          | .text _ => Table.get? v p.vars
          | .fields _ => Table.get? v (p.clearVariable name).vars) := by
  cases choice with
  | text s =>
      change Table.get? v (Table.set name s p.vars) = _
      rw [get?_variables_text]
      by_cases hname : v = name
      · rw [if_pos hname, hname, Table.get?_set_self, Option.some_or]
      · rw [if_neg hname, Table.get?_set_of_ne hname, Option.none_or]
  | fields fs =>
      have hfold : ∀ q : Player,
          (fs.foldl (fun q f => q.setVariable (name ++ "." ++ f.1) f.2) q).vars =
            Table.update q.vars (fs.map fun f => (name ++ "." ++ f.1, f.2)) := by
        intro q
        rw [Table.update, List.foldl_map]
        exact (List.foldl_hom Player.vars (fun _ _ => rfl)).symm
      rw [assignChoice, hfold, Table.get?_update]
      rfl

theorem agreeOn_assignChoice_fields (name : String) (p : Player) (fs : Table String) :
    AgreeOn name (assignChoice name p (.fields fs)).vars ((Choice.fields fs).variables name) := by
  intro v hv
  rw [get?_assignChoice, get?_clearVariable, if_pos hv, Option.or_none]

/-- A text is all that is left of a variable exactly if there were no fields. -/
theorem agreeOn_set_iff {name s : String} {t : Table String} :
    AgreeOn name (Table.set name s t) ((Choice.text s).variables name) ↔ Fieldless name t := by
  constructor
  · intro h v hv hne
    have hagree := h v hv
    rwa [Table.get?_set_of_ne hne, get?_variables_text, if_neg hne] at hagree
  · intro h v hv
    rw [get?_variables_text]
    by_cases hname : v = name
    · rw [if_pos hname, hname, Table.get?_set_self]
    · rw [if_neg hname, Table.get?_set_of_ne hname, h v hv hname]

theorem get?_assignChoice_of_not_owns (h : ¬ Owns name v) (p : Player) (choice : Choice) :
    Table.get? v (assignChoice name p choice).vars = Table.get? v p.vars := by
  rw [get?_assignChoice, get?_variables_eq_none h, Option.none_or]
  cases choice with
  | text s => rfl
  | fields fs => exact (get?_clearVariable name v p).trans (if_neg h)

/-- The choices that are drawn among, in the order of the declarations. -/
def drawnAmong (vars : Declarations) : List (List Choice) :=
  vars.filterMap fun d => d.2.filter fun choices => !choices.isEmpty

theorem settleVariable_of_ne_nil (name : String) (p : Player) (draws : Draws)
    {choices : List Choice} (hne : choices ≠ []) :
    ∃ choice, Choice.drawn? choices (draws.pending.headD 0) = some choice ∧
      settleVariable name (some choices) p draws =
        (assignChoice name p choice, (draws.pick choices.length).2) := by
  have hchoose := draws.choose_of_ne_nil hne
  obtain ⟨choice, hchoice⟩ := Option.isSome_iff_exists.mp (draws.choose_isSome hne)
  rw [hchoose] at hchoice
  change choices[(draws.pick choices.length).1]? = some choice at hchoice
  rw [hchoice] at hchoose
  refine ⟨choice, hchoice, ?_⟩
  simp only [settleVariable, hchoose]

theorem get?_settleVariable_of_not_owns (h : ¬ Owns name v) (choices : Option (List Choice))
    (p : Player) (draws : Draws) :
    Table.get? v (settleVariable name choices p draws).1.vars = Table.get? v p.vars := by
  rcases choices with - | choices
  · exact (get?_clearVariable name v p).trans (if_neg h)
  · by_cases hne : choices = []
    · rw [hne]
      rfl
    · obtain ⟨choice, -, hsettled⟩ := settleVariable_of_ne_nil name p draws hne
      rw [hsettled]
      exact get?_assignChoice_of_not_owns h p choice

/-! ## All declarations -/

theorem settleVariables_cons (d : String × Option (List Choice)) (vars : Declarations) (p : Player)
    (draws : Draws) :
    settleVariables (d :: vars) p draws =
      settleVariables vars (settleVariable d.1 d.2 p draws).1
        (settleVariable d.1 d.2 p draws).2 := rfl

theorem settleVariables_append (earlier later : Declarations) (p : Player) (draws : Draws) :
    settleVariables (earlier ++ later) p draws =
      settleVariables later (settleVariables earlier p draws).1
        (settleVariables earlier p draws).2 := by
  rw [settleVariables, List.foldl_append]
  rfl

/-- What belongs to no declared name stays. -/
theorem get?_settleVariables (h : ∀ name ∈ vars.keys, ¬ Owns name v) (p : Player) (draws : Draws) :
    Table.get? v (settleVariables vars p draws).1.vars = Table.get? v p.vars := by
  induction vars generalizing p draws with
  | nil => rfl
  | cons d vars ih =>
      rw [Table.keys, List.map_cons, List.forall_mem_cons] at h
      rw [settleVariables_cons, ih h.2, get?_settleVariable_of_not_owns h.1]

theorem drawnAmong_cons_of_ne_nil (name : String) {choices : List Choice} (hne : choices ≠ [])
    (vars : Declarations) :
    drawnAmong ((name, some choices) :: vars) = choices :: drawnAmong vars := by
  apply List.filterMap_cons_some
  simp [hne]

/-- Each declaration with choices takes one number. -/
theorem draws_settleVariables (vars : Declarations) (p : Player) (draws : Draws) :
    (settleVariables vars p draws).2 =
      ⟨draws.pending.drop (drawnAmong vars).length,
        draws.decisions ++ (drawnAmong vars).mapIdx fun k choices =>
          ⟨choices.length, draws.pending.getD k 0 % choices.length⟩⟩ := by
  induction vars generalizing p draws with
  | nil => simp [settleVariables, drawnAmong]
  | cons d vars ih =>
      obtain ⟨name, choices⟩ := d
      rw [settleVariables_cons, ih]
      rcases choices with - | choices
      · rfl
      by_cases hne : choices = []
      · rw [hne]
        rfl
      obtain ⟨choice, -, hsettled⟩ := settleVariable_of_ne_nil name p draws hne
      rw [hsettled, drawnAmong_cons_of_ne_nil name hne]
      simp [Draws.pick, List.mapIdx_cons, List.headD_eq_head?_getD, List.head?_eq_getElem?]

/-- What belongs to a declared name is settled by its declaration alone. -/
theorem get?_settleVariables_of_owns {choices : Option (List Choice)}
    {earlier later : Declarations} (hseparate : Separate (earlier ++ (name, choices) :: later))
    (hv : Owns name v) (p : Player) (draws : Draws) :
    Table.get? v (settleVariables (earlier ++ (name, choices) :: later) p draws).1.vars =
        Table.get? v (settleVariable name choices (settleVariables earlier p draws).1
          (settleVariables earlier p draws).2).1.vars ∧
      Table.get? v (settleVariables earlier p draws).1.vars = Table.get? v p.vars := by
  rw [Separate, Table.keys, List.map_append, List.map_cons, List.pairwise_append,
    List.pairwise_cons] at hseparate
  obtain ⟨-, ⟨hlater, -⟩, hearlier⟩ := hseparate
  constructor
  · rw [settleVariables_append, settleVariables_cons]
    apply get?_settleVariables
    intro other hother howns
    obtain ⟨hout, hin⟩ := hlater other hother
    exact (owns_or_owns hv howns).elim hout hin
  · apply get?_settleVariables
    intro other hother howns
    obtain ⟨hin, hout⟩ := hearlier other hother name List.mem_cons_self
    exact (owns_or_owns hv howns).elim hout hin

theorem headD_drop (numbers : List Nat) (k : Nat) :
    (numbers.drop k).headD 0 = numbers.getD k 0 := by
  rw [List.headD_eq_head?_getD, List.head?_drop, List.getD_eq_getElem?_getD]

/-- Where no declared name belongs to another, each declaration with choices takes one number, in
the order of the declarations, and settles what belongs to its name: null clears it, no choices
leave it, and a drawn object takes its place.  A drawn text leaves the fields as they are. -/
theorem variables_settled (hseparate : Separate vars) (p : Player) (draws : Draws) :
    (settleVariables vars p draws).2 =
        ⟨draws.pending.drop (drawnAmong vars).length,
          draws.decisions ++ (drawnAmong vars).mapIdx fun k choices =>
            ⟨choices.length, draws.pending.getD k 0 % choices.length⟩⟩ ∧
      (∀ v, (∀ name ∈ vars.keys, ¬ Owns name v) →
        Table.get? v (settleVariables vars p draws).1.vars = Table.get? v p.vars) ∧
      ∀ earlier name choices later, vars = earlier ++ (name, choices) :: later →
        (choices = none → AgreeOn name (settleVariables vars p draws).1.vars []) ∧
        (choices = some [] → AgreeOn name (settleVariables vars p draws).1.vars p.vars) ∧
        ∀ among, choices = some among → among ≠ [] →
          ∃ choice,
            Choice.drawn? among (draws.pending.getD (drawnAmong earlier).length 0) = some choice ∧
            (AgreeOn name (settleVariables vars p draws).1.vars (choice.variables name) ↔
              ∀ s, choice = .text s → Fieldless name p.vars) ∧
            ∀ s, choice = .text s →
              AgreeOn name (settleVariables vars p draws).1.vars (Table.set name s p.vars) := by
  refine ⟨draws_settleVariables vars p draws, fun v hv => get?_settleVariables hv p draws, ?_⟩
  rintro earlier name choices later rfl
  have hbefore : AgreeOn name (settleVariables earlier p draws).1.vars p.vars := fun v hv =>
    (get?_settleVariables_of_owns hseparate hv p draws).2
  have hafter := fun v (hv : Owns name v) =>
    (get?_settleVariables_of_owns hseparate hv p draws).1
  generalize settleVariables (earlier ++ (name, choices) :: later) p draws = after at hafter ⊢
  refine ⟨?_, ?_, ?_⟩
  · rintro rfl v hv
    exact (hafter v hv).trans ((get?_clearVariable name v _).trans (if_pos hv))
  · rintro rfl
    exact AgreeOn.trans hafter hbefore
  · rintro among rfl hne
    obtain ⟨choice, hdrawn, hsettled⟩ := settleVariable_of_ne_nil name
      (settleVariables earlier p draws).1 (settleVariables earlier p draws).2 hne
    rw [draws_settleVariables, headD_drop] at hdrawn
    rw [hsettled] at hafter
    refine ⟨choice, hdrawn, ?_⟩
    cases choice with
    | text s =>
        have hset : AgreeOn name after.1.vars (Table.set name s p.vars) :=
          AgreeOn.trans hafter (hbefore.set s)
        refine ⟨?_, ?_⟩
        · constructor
          · intro h _ _
            exact agreeOn_set_iff.mp (hset.symm.trans h)
          · intro h
            exact hset.trans (agreeOn_set_iff.mpr (h s rfl))
        · rintro s' hs
          cases hs
          exact hset
    | fields fs =>
        have hfields := AgreeOn.trans hafter (agreeOn_assignChoice_fields name _ fs)
        exact ⟨iff_of_true hfields (by rintro s ⟨⟩), by rintro s ⟨⟩⟩

/-- A drawn person, an unsettled road, a ghost that is gone and a text for the weather. -/
def strangerVariables : Declarations :=
  [("npc", some [.text "Bob", .fields [("name", "Ada"), ("gender", "female")]]), ("road", some []),
    ("ghost", none), ("weather", some [.text "rain"])]

def strangerPlayer : Player :=
  { vars := [("npc", "Cid"), ("ghost.name", "Eve"), ("road", "north")] }

theorem variables_settled_of_stranger :
    Separate strangerVariables ∧
      AgreeOn "npc" (settleVariables strangerVariables strangerPlayer ⟨[3, 5], []⟩).1.vars
        [("npc.name", "Ada"), ("npc.gender", "female")] ∧
      (settleVariables strangerVariables strangerPlayer ⟨[3, 5], []⟩).2 = ⟨[], [⟨2, 1⟩, ⟨1, 0⟩]⟩ := by
  have hseparate : Separate strangerVariables := by decide +kernel
  obtain ⟨hdraws, -, hsettled⟩ :=
    variables_settled hseparate strangerPlayer ⟨[3, 5], []⟩
  refine ⟨hseparate, ?_, hdraws⟩
  obtain ⟨choice, hdrawn, hagree, -⟩ := (hsettled [] "npc" _ _ rfl).2.2 _ rfl (by decide)
  cases hdrawn
  exact hagree.mpr (by rintro s ⟨⟩)

/-- The fields of an object are still there after a text was drawn in its place. -/
theorem fields_can_outlive_text :
    Separate [("npc", some [.text "Bob"])] ∧
      Choice.drawn? [.text "Bob"] 0 = some (.text "Bob") ∧
      Owns "npc" "npc.gender" ∧
      Table.get? "npc.gender" ((Choice.text "Bob").variables "npc") = none ∧
      Table.get? "npc.gender"
        (settleVariables [("npc", some [.text "Bob"])] { vars := [("npc.gender", "female")] }
          {}).1.vars = some "female" := by
  decide +kernel

end Questline
