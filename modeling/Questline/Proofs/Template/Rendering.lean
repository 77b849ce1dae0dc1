import Mathlib.Data.List.Basic
import Mathlib.Data.List.TakeWhile
import Questline.Template

/-!
# Filling a template

No two placeholders of a text overlap, so reading it from left to right finds
all of them, whatever braces stand around them.  A filled template has in the
place of each what the variables give for its name, and the rest of the text
as it was; what the variables give for other names makes no difference.
-/

namespace Questline

namespace Template

variable {text before name other after rest cs : List Char} {ps : List Piece}
  {vars vars' : Table String} {template : String}

/-! ## Placeholders of a text -/

structure IsName (name : List Char) : Prop where
  ne_nil : name ≠ []
  chars : ∀ c ∈ name, isNameChar c = true

/-- A placeholder of a text, with what stands before it and after it. -/
structure Occurs (text before name after : List Char) : Prop where
  isName : IsName name
  text_eq : text = before ++ (slotText name ++ after)

/-- The pieces of a text: put together they are the text, and the placeholders of the text are
those among them. -/
structure Reads (text : List Char) (ps : List Piece) : Prop where
  source : ps.flatMap Piece.source = text
  occurs_iff : ∀ before name after, Occurs text before name after ↔
    ∃ qs rs, ps = qs ++ .slot name :: rs ∧
      qs.flatMap Piece.source = before ∧ rs.flatMap Piece.source = after

theorem IsName.brace_not_mem (h : IsName name) : '\x7b' ∉ name := fun hmem =>
  absurd (h.chars _ hmem) (by decide)

/-- Inside a placeholder, a brace that opens is the first or the second character. -/
theorem IsName.eq_singleton_of_slotText (h : IsName name) (hbefore : before ≠ [])
    (hslot : slotText name = before ++ '\x7b' :: rest) :
    before = ['\x7b'] ∧ rest = name ++ ['\x7d', '\x7d'] := by
  have hnot : '\x7b' ∉ name ++ ['\x7d', '\x7d'] := by
    simp [h.brace_not_mem]
  cases before with
  | nil => contradiction
  | cons c before =>
      cases before with
      | nil =>
          simp only [slotText, List.cons_append, List.nil_append, List.cons.injEq,
            true_and] at hslot
          exact ⟨by rw [hslot.1], hslot.2.symm⟩
      | cons d before =>
          simp only [slotText, List.cons_append, List.cons.injEq] at hslot
          refine absurd ?_ hnot
          rw [hslot.2.2]
          simp

/-- Two placeholders do not overlap: one that begins further on begins after the end. -/
theorem exists_eq_slotText_append (hother : IsName other) (hbefore : before ≠ [])
    (h : before ++ (slotText name ++ after) = slotText other ++ rest) :
    ∃ between, before = slotText other ++ between ∧
      rest = between ++ (slotText name ++ after) := by
  rcases List.append_eq_append_iff.mp h with ⟨mid, hslot, hmid⟩ | ⟨between, hbetween, hrest⟩
  · cases mid with
    | nil => exact ⟨[], by simpa using hslot.symm, by simpa using hmid.symm⟩
    | cons c mid =>
        simp only [slotText, List.cons_append, List.cons.injEq] at hmid
        obtain ⟨rfl, hmid⟩ := hmid
        obtain ⟨-, rfl⟩ := hother.eq_singleton_of_slotText hbefore hslot
        -- the second brace would be the first character of the other name
        cases other with
        | nil => exact absurd rfl hother.ne_nil
        | cons d other =>
            simp only [List.cons_append, List.cons.injEq] at hmid
            exact absurd (hmid.1 ▸ List.mem_cons_self) hother.brace_not_mem
  · exact ⟨between, hbetween, hrest⟩

/-! ## The reading finds them -/

theorem IsName.placeholder?_slotText_append (h : IsName name) (after : List Char) :
    placeholder? (slotText name ++ after) = some name := by
  have hclose : isNameChar '\x7d' = false := by decide
  have htake : (name ++ '\x7d' :: '\x7d' :: after).takeWhile isNameChar = name := by
    rw [List.takeWhile_append_of_pos h.chars]
    simp [hclose]
  have hdrop : (name ++ '\x7d' :: '\x7d' :: after).dropWhile isNameChar =
      '\x7d' :: '\x7d' :: after := by
    rw [List.dropWhile_append_of_pos h.chars]
    simp [hclose]
  have hname : name.isEmpty = false := by simpa using h.ne_nil
  simp [slotText, placeholder?, htake, hdrop, hname]

theorem placeholder?_eq_some_iff :
    placeholder? cs = some name ↔ IsName name ∧ ∃ after, cs = slotText name ++ after := by
  constructor
  · intro h
    unfold placeholder? at h
    split at h
    · next rest =>
        simp only at h
        split at h
        · next after hdrop =>
            split at h
            · contradiction
            · next hname =>
                obtain rfl := Option.some.inj h
                refine ⟨⟨by simpa using hname, fun c => List.mem_takeWhile_imp⟩, after, ?_⟩
                have hsplit := List.takeWhile_append_dropWhile (p := isNameChar) (l := rest)
                rw [hdrop] at hsplit
                simp [slotText, hsplit]
        · contradiction
    · contradiction
  · rintro ⟨h, after, rfl⟩
    exact h.placeholder?_slotText_append after

theorem piecesFrom_eq_drop (skip : Nat) (cs : List Char) :
    piecesFrom skip cs = piecesFrom 0 (cs.drop skip) := by
  induction cs generalizing skip with
  | nil => cases skip <;> rfl
  | cons c cs ih =>
      cases skip with
      | zero => rfl
      | succ skip => exact ih skip

theorem piecesFrom_plain {c : Char} (h : placeholder? (c :: cs) = none) :
    piecesFrom 0 (c :: cs) = .plain c :: piecesFrom 0 cs := by
  simp only [piecesFrom, h]

theorem IsName.piecesFrom_slotText_append (h : IsName name) (after : List Char) :
    piecesFrom 0 (slotText name ++ after) = .slot name :: piecesFrom 0 after := by
  have hfound := h.placeholder?_slotText_append after
  simp only [slotText, List.cons_append] at hfound ⊢
  simp only [piecesFrom, hfound]
  rw [piecesFrom_eq_drop, List.append_assoc, List.drop_append]
  simp [List.drop_eq_nil_of_le]

theorem length_lt_slotText_append (name after : List Char) :
    after.length < (slotText name ++ after).length := by
  simp only [slotText, List.length_append, List.length_cons]
  omega

/-- The pieces of a text, put together again, are the text. -/
theorem flatMap_source_piecesFrom (cs : List Char) :
    (piecesFrom 0 cs).flatMap Piece.source = cs := by
  induction hlength : cs.length using Nat.strongRecOn generalizing cs with
  | _ length ih =>
      cases cs with
      | nil => rfl
      | cons c cs =>
          subst hlength
          cases hfound : placeholder? (c :: cs) with
          | none =>
              rw [piecesFrom_plain hfound, List.flatMap_cons, ih cs.length (by simp) cs rfl]
              rfl
          | some name =>
              obtain ⟨hname, after, htext⟩ := placeholder?_eq_some_iff.mp hfound
              have hshorter : after.length < (c :: cs).length := by
                rw [htext]
                exact length_lt_slotText_append name after
              rw [htext, hname.piecesFrom_slotText_append, List.flatMap_cons,
                ih _ hshorter after rfl]
              rfl

/-- Reading goes on after a placeholder as if the text began there, and comes to it as if the text
ended there. -/
theorem IsName.piecesFrom_append_slot (hname : IsName name) (before after : List Char) :
    piecesFrom 0 (before ++ (slotText name ++ after)) =
      piecesFrom 0 before ++ .slot name :: piecesFrom 0 after := by
  induction hlength : before.length using Nat.strongRecOn generalizing before with
  | _ length ih =>
      cases before with
      | nil => exact hname.piecesFrom_slotText_append after
      | cons c before =>
          subst hlength
          cases hfound : placeholder? (c :: (before ++ (slotText name ++ after))) with
          | none =>
              have hbefore : placeholder? (c :: before) = none := by
                rw [Option.eq_none_iff_forall_ne_some]
                intro other hother
                obtain ⟨hname', rest, hrest⟩ := placeholder?_eq_some_iff.mp hother
                rw [← List.cons_append, hrest, List.append_assoc,
                  hname'.placeholder?_slotText_append] at hfound
                contradiction
              rw [List.cons_append, piecesFrom_plain hfound, piecesFrom_plain hbefore,
                ih before.length (by simp) before rfl, List.cons_append]
          | some other =>
              obtain ⟨hother, rest, hrest⟩ := placeholder?_eq_some_iff.mp hfound
              obtain ⟨between, hbefore, rfl⟩ :=
                exists_eq_slotText_append hother (List.cons_ne_nil c before) hrest
              have hshorter : between.length < (c :: before).length := by
                rw [hbefore]
                exact length_lt_slotText_append other between
              rw [List.cons_append, hrest, hother.piecesFrom_slotText_append, hbefore,
                hother.piecesFrom_slotText_append, ih _ hshorter between rfl, List.cons_append]

theorem isName_of_mem_piecesFrom {skip : Nat} (h : .slot name ∈ piecesFrom skip cs) :
    IsName name := by
  induction cs generalizing skip with
  | nil => simp [piecesFrom] at h
  | cons c cs ih =>
      cases skip with
      | succ skip => exact ih h
      | zero =>
          rw [piecesFrom] at h
          split at h
          · next other hfound =>
              rcases List.mem_cons.mp h with hslot | hmem
              · obtain rfl := Piece.slot.inj hslot
                exact (placeholder?_eq_some_iff.mp hfound).1
              · exact ih hmem
          · rcases List.mem_cons.mp h with hplain | hmem
            · contradiction
            · exact ih hmem

theorem reads_piecesFrom (text : List Char) : Reads text (piecesFrom 0 text) where
  source := flatMap_source_piecesFrom text
  occurs_iff := by
    intro before name after
    constructor
    · rintro ⟨hname, rfl⟩
      exact ⟨_, _, hname.piecesFrom_append_slot before after, flatMap_source_piecesFrom before,
        flatMap_source_piecesFrom after⟩
    · rintro ⟨qs, rs, hps, rfl, rfl⟩
      have hmem : .slot name ∈ piecesFrom 0 text := by simp [hps]
      have hsource := flatMap_source_piecesFrom text
      rw [hps] at hsource
      exact ⟨isName_of_mem_piecesFrom hmem, by simpa [Piece.source] using hsource.symm⟩

/-! ## What fills a placeholder -/

/-- The pronoun that a dotted name stands for: its last part is one, and the gender is found
beside it. -/
def DerivesPronoun (vars : Table String) (name pronoun : String) : Prop :=
  ∃ space word gender g, name.toList = space ++ '.' :: word ∧ '.' ∉ word ∧
    Table.get? (genderVariable space) vars = some gender ∧ Gender.ofName? gender = some g ∧
    g.pronoun? (.ofList word) = some pronoun

def IsUnset (vars : Table String) (name : String) : Prop :=
  ∀ value, Table.get? name vars = some value → value = ""

/-- What stands in a filled template for a placeholder: the value of the variable, or else a
pronoun, or else the placeholder itself. -/
inductive Fills (vars : Table String) (name : String) : String → Prop where
  | value {value : String} (set : Table.get? name vars = some value) (ne : value ≠ "") :
    Fills vars name value
  | pronoun {pronoun : String} (unset : IsUnset vars name)
      (derived : DerivesPronoun vars name pronoun) : Fills vars name pronoun
  | itself (unset : IsUnset vars name) (none : ∀ pronoun, ¬ DerivesPronoun vars name pronoun) :
    Fills vars name (.ofList (slotText name.toList))

theorem splitLastPoint?_eq_some_iff {space word : List Char} :
    splitLastPoint? name = some (space, word) ↔ name = space ++ '.' :: word ∧ '.' ∉ word := by
  constructor
  · intro h
    have hsplit := List.takeWhile_append_dropWhile (p := (· != '.')) (l := name.reverse)
    unfold splitLastPoint? at h
    split at h
    · contradiction
    · next c before hdrop =>
        have hc : c = '.' := by
          have hhead := List.head?_dropWhile_not (· != '.') name.reverse
          simpa [hdrop] using hhead
        simp only [Option.some.injEq, Prod.mk.injEq] at h
        obtain ⟨rfl, rfl⟩ := h
        rw [hdrop, hc] at hsplit
        constructor
        · have hname := congrArg List.reverse hsplit
          simpa using hname.symm
        · intro hmem
          have := List.mem_takeWhile_imp (List.mem_reverse.mp hmem)
          simp at this
  · rintro ⟨rfl, hword⟩
    have hclear : ∀ c ∈ word.reverse, (c != '.') = true := by
      intro c hc
      rw [bne_iff_ne]
      rintro rfl
      exact hword (List.mem_reverse.mp hc)
    have hreverse : (space ++ '.' :: word).reverse = word.reverse ++ '.' :: space.reverse := by
      simp
    rw [splitLastPoint?, hreverse, List.dropWhile_append_of_pos hclear,
      List.takeWhile_append_of_pos hclear]
    simp

theorem derivePronoun_eq_some_iff {name pronoun : String} :
    derivePronoun vars name = some pronoun ↔ DerivesPronoun vars name pronoun := by
  simp only [derivePronoun, DerivesPronoun, Option.bind_eq_bind, Option.bind_eq_some_iff,
    Prod.exists, splitLastPoint?_eq_some_iff]
  constructor
  · rintro ⟨space, word, ⟨hname, hword⟩, gender, hgender, g, hg, hpronoun⟩
    exact ⟨space, word, gender, g, hname, hword, hgender, hg, hpronoun⟩
  · rintro ⟨space, word, gender, g, hname, hword, hgender, hg, hpronoun⟩
    exact ⟨space, word, ⟨hname, hword⟩, gender, hgender, g, hg, hpronoun⟩

theorem ne_empty_of_mem_forms (g : Gender) :
    ∀ form ∈ g.forms, form ≠ "" ∧ capitalized form ≠ "" := by
  cases g <;> decide

theorem ne_empty_of_pronoun? {g : Gender} {word pronoun : String}
    (h : g.pronoun? word = some pronoun) : pronoun ≠ "" := by
  unfold Gender.pronoun? at h
  split at h
  · exact (ne_empty_of_mem_forms g _ (List.mem_of_getElem? h)).1
  · simp only [Option.bind_eq_bind, Option.bind_eq_some_iff, Option.pure_def,
      Option.some.injEq] at h
    obtain ⟨small, -, i, -, form, hform, rfl⟩ := h
    exact (ne_empty_of_mem_forms g form (List.mem_of_getElem? hform)).2

/-- A variable that holds something comes first, and pronouns are never empty. -/
theorem filling?_cases (vars : Table String) (name : String) :
    (∃ value, Table.get? name vars = some value ∧ value ≠ "" ∧ filling? vars name = some value) ∨
      IsUnset vars name ∧ filling? vars name = derivePronoun vars name := by
  have hpronoun : (derivePronoun vars name).filter (!·.isEmpty) = derivePronoun vars name := by
    cases hderived : derivePronoun vars name with
    | none => rfl
    | some pronoun =>
        obtain ⟨space, word, gender, g, -, -, -, -, hform⟩ := derivePronoun_eq_some_iff.mp hderived
        simp [Option.filter, ne_empty_of_pronoun? hform]
  cases hget : Table.get? name vars with
  | none => exact .inr ⟨by simp [IsUnset, hget], by simp [filling?, hget, hpronoun]⟩
  | some value =>
      by_cases hvalue : value = ""
      · have hempty : (some value).filter (!·.isEmpty) = none := by simp [Option.filter, hvalue]
        refine .inr ⟨by simp [IsUnset, hget, hvalue], ?_⟩
        simp only [filling?, hget, hempty, hpronoun]
      · exact .inl ⟨value, rfl, hvalue, by simp [filling?, hget, Option.filter, hvalue]⟩

def shown (vars : Table String) (name : String) : String :=
  (filling? vars name).getD (.ofList (slotText name.toList))

theorem fills_shown (vars : Table String) (name : String) : Fills vars name (shown vars name) := by
  rcases filling?_cases vars name with ⟨value, hget, hvalue, hfilling⟩ | ⟨hunset, hfilling⟩
  · rw [shown, hfilling]
    exact .value hget hvalue
  · rw [shown, hfilling]
    cases hderived : derivePronoun vars name with
    | some pronoun => exact .pronoun hunset (derivePronoun_eq_some_iff.mp hderived)
    | none =>
        refine .itself hunset fun pronoun hpronoun => ?_
        rw [derivePronoun_eq_some_iff.mpr hpronoun] at hderived
        contradiction

theorem toList_shown (vars : Table String) (name : List Char) :
    (shown vars (.ofList name)).toList = Piece.fill vars (.slot name) := by
  rw [shown, Piece.fill]
  cases filling? vars (.ofList name) <;> simp

/-! ## Filling the whole text -/

def Piece.name? : Piece → Option String
  | .plain _ => none
  | .slot name => some (.ofList name)

def Piece.filledBy (filler : String → String) : Piece → List Char
  | .plain c => [c]
  | .slot name => (filler (.ofList name)).toList

/-- Neither a value nor a pronoun is to be had for a name. -/
def IsUnresolved (vars : Table String) (name : String) : Prop :=
  IsUnset vars name ∧ ∀ pronoun, ¬ DerivesPronoun vars name pronoun

/-- Two tables give the placeholders of a template the same values, and the same genders to those
with dotted names. -/
structure AgreeOn (template : String) (vars vars' : Table String) : Prop where
  value : ∀ name ∈ names template, Table.get? name vars = Table.get? name vars'
  gender : ∀ name ∈ names template, ∀ space word, name.toList = space ++ '.' :: word →
    '.' ∉ word → Table.get? (genderVariable space) vars = Table.get? (genderVariable space) vars'

theorem toList_render (vars : Table String) (template : String) :
    (render vars template).toList = (pieces template).flatMap (Piece.filledBy (shown vars)) := by
  have hfill : Piece.fill vars = Piece.filledBy (shown vars) := by
    funext piece
    cases piece with
    | plain c => rfl
    | slot name => exact (toList_shown vars name).symm
  rw [render, String.toList_ofList, hfill]

theorem names_eq_filterMap (template : String) :
    names template = (pieces template).filterMap Piece.name? := by
  rw [names]
  refine List.filterMap_congr fun piece _ => ?_
  cases piece <;> rfl

theorem flatMap_filledBy_congr {ps : List Piece} {filler filler' : String → String}
    (h : ∀ name ∈ ps.filterMap Piece.name?, filler name = filler' name) :
    ps.flatMap (Piece.filledBy filler) = ps.flatMap (Piece.filledBy filler') := by
  refine List.flatMap_congr fun piece hpiece => ?_
  cases piece with
  | plain c => rfl
  | slot name =>
      rw [Piece.filledBy, Piece.filledBy, h _ (List.mem_filterMap.mpr ⟨_, hpiece, rfl⟩)]

theorem filledBy_slotText :
    Piece.filledBy (fun name => .ofList (slotText name.toList)) = Piece.source := by
  funext piece
  cases piece <;> simp [Piece.filledBy, Piece.source]

theorem Fills.eq_slotText {name text : String} (h : Fills vars name text)
    (hnone : IsUnresolved vars name) : text = .ofList (slotText name.toList) := by
  cases h with
  | value set ne => exact absurd (hnone.1 _ set) ne
  | pronoun unset derived => exact absurd derived (hnone.2 _)
  | itself unset none => rfl

theorem AgreeOn.shown_eq (h : AgreeOn template vars vars') {name : String}
    (hname : name ∈ names template) : shown vars name = shown vars' name := by
  have hderived : derivePronoun vars name = derivePronoun vars' name := by
    unfold derivePronoun
    cases hsplit : splitLastPoint? name.toList with
    | none => rfl
    | some parts =>
        obtain ⟨hparts, hword⟩ := splitLastPoint?_eq_some_iff.mp hsplit
        simp only [Option.bind_eq_bind, Option.bind_some, h.gender name hname _ _ hparts hword]
  rw [shown, shown, filling?, filling?, h.value name hname, hderived]

theorem render_eq_self (h : ∀ name ∈ names template, IsUnresolved vars name) :
    render vars template = template := by
  rw [names_eq_filterMap] at h
  have hshown : ∀ name ∈ (pieces template).filterMap Piece.name?,
      shown vars name = .ofList (slotText name.toList) := by
    intro name hname
    exact (fills_shown vars name).eq_slotText (h name hname)
  rw [← String.toList_inj, toList_render, flatMap_filledBy_congr hshown, filledBy_slotText]
  exact flatMap_source_piecesFrom template.toList

theorem AgreeOn.render_eq (h : AgreeOn template vars vars') :
    render vars template = render vars' template := by
  have hshown : ∀ name ∈ (pieces template).filterMap Piece.name?,
      shown vars name = shown vars' name := by
    intro name hname
    exact h.shown_eq (names_eq_filterMap template ▸ hname)
  rw [← String.toList_inj, toList_render, toList_render, flatMap_filledBy_congr hshown]

/-- Filling a template puts something in the place of each of its placeholders, of all of them and
in order, as the variables have it for the name, and keeps the rest.  A template whose names all
come to nothing stays as it is, and tables that agree on its names fill it alike. -/
theorem render_in_one_pass (template : String) :
    (∃ ps, Reads template.toList ps ∧ names template = ps.filterMap Piece.name? ∧
      ∀ vars, ∃ filler, (∀ name, Fills vars name (filler name)) ∧
        (render vars template).toList = ps.flatMap (Piece.filledBy filler)) ∧
    (∀ vars, (∀ name ∈ names template, IsUnresolved vars name) →
      render vars template = template) ∧
    ∀ vars vars', AgreeOn template vars vars' → render vars template = render vars' template := by
  refine ⟨⟨pieces template, reads_piecesFrom _, names_eq_filterMap template, ?_⟩,
    fun vars => render_eq_self, fun vars vars' => AgreeOn.render_eq⟩
  intro vars
  exact ⟨shown vars, fills_shown vars, toList_render vars template⟩

/-- Where neither the hero nor the gender of anyone is known, the greeting stays as it is; another
variable beside them makes no difference to it. -/
theorem render_in_one_pass_of_greeting :
    let greeting := "\x7b\x7bnpc.he\x7d\x7d greets \x7b\x7bhero\x7d\x7d."
    let unknown : Table String := [("coin", "silver")]
    let known : Table String := [("npc.gender", "female"), ("hero", "Ada")]
    let more : Table String := [("hero", "Ada"), ("coin", "silver"), ("npc.gender", "female")]
    (∀ name ∈ names greeting, IsUnresolved unknown name) ∧ render unknown greeting = greeting ∧
      AgreeOn greeting known more ∧ render known greeting = render more greeting ∧
      render more greeting = "she greets Ada." := by
  intro greeting unknown known more
  have hnames : names greeting = ["npc.he", "hero"] := by decide +kernel
  have hunresolved : ∀ name ∈ names greeting, IsUnresolved unknown name := by
    have hnothing : ∀ name, Table.get? name unknown = none → derivePronoun unknown name = none →
        IsUnresolved unknown name := by
      intro name hget hderived
      refine ⟨fun value hvalue => ?_, fun pronoun hpronoun => ?_⟩
      · rw [hget] at hvalue
        contradiction
      · rw [← derivePronoun_eq_some_iff, hderived] at hpronoun
        contradiction
    rw [hnames, List.forall_mem_cons, List.forall_mem_singleton]
    exact ⟨hnothing _ (by decide +kernel) (by decide +kernel),
      hnothing _ (by decide +kernel) (by decide +kernel)⟩
  have hagree : AgreeOn greeting known more := by
    constructor
    · rw [hnames, List.forall_mem_cons, List.forall_mem_singleton]
      exact ⟨by decide +kernel, by decide +kernel⟩
    · -- of the two names only the first has a point, and before it stands who is spoken of
      rw [hnames, List.forall_mem_cons, List.forall_mem_singleton]
      refine ⟨fun space word hname hword => ?_, fun space word hname hword => ?_⟩
      · have hsplit := splitLastPoint?_eq_some_iff.mpr ⟨hname, hword⟩
        have hspace : splitLastPoint? "npc.he".toList = some ("npc".toList, "he".toList) := by
          decide +kernel
        rw [hspace] at hsplit
        cases hsplit
        decide +kernel
      · have hsplit := splitLastPoint?_eq_some_iff.mpr ⟨hname, hword⟩
        have hspace : splitLastPoint? "hero".toList = none := by decide +kernel
        rw [hspace] at hsplit
        contradiction
  obtain ⟨-, hself, hsame⟩ := render_in_one_pass greeting
  exact ⟨hunresolved, hself unknown hunresolved, hagree, hsame known more hagree,
    by decide +kernel⟩

/-- The inner braces are the placeholder's, and a value is not looked through for placeholders. -/
example :
    render [("hero", "\x7b\x7bnpc.he\x7d\x7d"), ("npc.gender", "female")]
        "\x7b\x7b\x7bhero\x7d\x7d\x7d: \x7b\x7bnpc.He\x7d\x7d, \x7b\x7b\x7d\x7d" =
      "\x7b\x7b\x7bnpc.he\x7d\x7d\x7d: She, \x7b\x7b\x7d\x7d" := by
  decide +kernel

end Template

end Questline
