import Questline.Draft
import Questline.Patching
import Questline.Proofs.Attempt
import Questline.Proofs.Json.PairTable

/-!
# Drafts of texts

A draft may have values of any kind at the place of its texts.  If they are
texts, patching the draft is patching the step: what stops the one stops the
other, and the results are the same.  Only the tags of the draft must be known to
be readable, as a draft is patched without a look at them.
-/

namespace Questline

variable {α β : Type}

/-! ## Texts as values -/

def OptionOf.map (f : α → β) (o : OptionOf α) : OptionOf β :=
  ⟨o.label, o.tags, o.passTarget.map f, o.failTarget.map f, o.skills, o.dc, o.hidden⟩

def TextChangeOf.map (f : α → β) (t : TextChangeOf α) : TextChangeOf β :=
  ⟨t.before.map f, t.after.map f, t.instead.map f⟩

def StepOf.map (f : α → β) (s : StepOf α) : StepOf β :=
  ⟨f s.id, s.tags, f s.text, s.vars, s.options.map (OptionOf.map f), s.log.map f, s.source⟩

def PatchOf.map (f : α → β) (p : PatchOf α) : PatchOf β :=
  ⟨p.target, p.tags, p.text.map f, p.options.map (OptionOf.map f), p.vars, p.source⟩

/-- A step as a draft. -/
def draftOf (s : Step) : AuthoredStep := s.map Json.str

def draftOfPatch (p : StepPatch) : AuthoredPatch := p.map Json.str

/-- Pieces are chosen and ordered without a look at what they are. -/
theorem textPieces_map {proper? : α → Option α} {proper'? : β → Option β} {f : α → β}
    (h : ∀ a, proper'? (f a) = (proper? a).map f) (text : α) (changes : List (TextChangeOf α)) :
    textPieces proper'? (f text) (changes.map (TextChangeOf.map f)) =
      (textPieces proper? text changes).map f := by
  have hbind : ∀ x : Option α, (x.map f).bind proper'? = (x.bind proper?).map f := by
    intro x
    cases x with
    | none => rfl
    | some a => exact h a
  have hpieces : ∀ (part' : TextChangeOf β → Option β) (part : TextChangeOf α → Option α),
      (∀ c : TextChangeOf α, part' (c.map f) = (part c).map f) →
      ((changes.map (TextChangeOf.map f)).filterMap fun c => (part' c).bind proper'?) =
        (changes.filterMap fun c => (part c).bind proper?).map f := by
    intro part' part hpart
    rw [List.filterMap_map, List.map_filterMap]
    congr 1
    funext c
    rw [Function.comp_apply, hpart, hbind]
  rw [textPieces, textPieces, hpieces (·.instead) (·.instead) fun _ => rfl,
    hpieces (·.before) (·.before) fun _ => rfl, hpieces (·.after) (·.after) fun _ => rfl,
    List.getLast?_map]
  cases (changes.filterMap fun c => c.instead.bind proper?).getLast? with
  | none => simp
  | some replacement => rfl

theorem given?_str (s : String) : (Json.str s).given? = (properText? s).map Json.str := by
  rw [Json.given?, Json.isGiven, properText?]
  cases s.isEmpty <;> rfl

theorem mapM_asText?_map_str (pieces : List String) :
    (pieces.map Json.str).mapM Json.asText? = some pieces := by
  induction pieces with
  | nil => rfl
  | cons piece pieces ih =>
      rw [List.map_cons, List.mapM_cons, ih]
      rfl

theorem joined_map_str (separator : String) (pieces : List String) :
    Draft.joined separator (pieces.map Json.str) = .ok (.str (Text.joined separator pieces)) := by
  have htexts := mapM_asText?_map_str pieces
  cases pieces with
  | nil => rfl
  | cons first rest =>
      cases rest with
      | nil => rfl
      | cons second rest =>
          rw [List.map_cons, List.map_cons] at htexts ⊢
          simp only [Draft.joined, htexts]

theorem withPatches_map (f : α → β) (base : StepOf α) (text : α) (applied : List (PatchOf α)) :
    withPatches (base.map f) (f text) (applied.map (PatchOf.map f)) =
      (withPatches base text applied).map f := by
  simp [withPatches, StepOf.map, PatchOf.map, List.flatMap_map, List.foldl_map, List.map_flatMap]

/-! ## Patching a draft -/

variable {base : Step} {counts : Counts} {patches : List StepPatch}

theorem tokensHold_eq (base : Step) (counts : Counts) (tokens : List String) :
    Draft.tokensHold (draftOf base) counts tokens =
      if (readInTurn (patchTokenHolds base counts) tokens).all Tag.isReadable then
        .ok (tokens.all (patchTokenHolds base counts))
      else .error .unreadableNumber := by
  induction tokens with
  | nil => rfl
  | cons token tokens ih =>
      have hholds : patchTagHolds (draftOf base) counts (Tag.ofToken token) =
          patchTokenHolds base counts token := rfl
      rw [Draft.tokensHold, readInTurn, Tag.read]
      cases hreadable : Tag.isReadable token with
      | false => simp [hreadable, bind, Except.bind]
      | true =>
          simp only [bind, Except.bind, if_true, hholds, ih]
          cases hallows : patchTokenHolds base counts token with
          | false => simp [hreadable, hallows, pure, Except.pure]
          | true => simp [hreadable, hallows]

theorem applies_draftOf (base : Step) (counts : Counts) (p : StepPatch) :
    Draft.applies (draftOf base) counts (draftOfPatch p) =
      if !(p.isFor base.id && !isPatchId base.id) ||
          (readInTurn (patchTokenHolds base counts) p.tags).all Tag.isReadable then
        .ok (patchApplies base counts p)
      else .error .unreadableNumber := by
  -- A target that is compared as a value with a text equals it.
  have hfor : p.target.alike (.str base.id) = p.isFor base.id := by
    rw [Bool.eq_iff_iff, PatchOf.isFor_iff]
    exact Json.alikeWithin_str
  have happlies : Draft.applies (draftOf base) counts (draftOfPatch p) =
      if p.target.alike (.str base.id) && !isPatchId base.id then
        Draft.tokensHold (draftOf base) counts p.tags
      else .ok false := rfl
  rw [happlies, hfor, patchApplies]
  cases p.isFor base.id && !isPatchId base.id with
  | false => rfl
  | true =>
      rw [if_pos rfl, tokensHold_eq]
      rfl

theorem applicable_draftOf (base : Step) (patches : List StepPatch) (counts : Counts) :
    Draft.applicable (draftOf base) (patches.map draftOfPatch) counts =
      if (patchesTested base patches).all fun p =>
          (readInTurn (patchTokenHolds base counts) p.tags).all Tag.isReadable then
        .ok ((applicable base patches counts).map draftOfPatch)
      else .error .unreadableNumber := by
  rw [Draft.applicable, filterM_map_eq fun p _ => applies_draftOf base counts p, patchesTested,
    List.all_filter]
  rfl

/-- Only the tokens of patches can stop the patching of a step whose own tags can be read. -/
theorem all_tokensTested (hbase : ∀ token ∈ base.tags, Tag.isReadable token = true) :
    (tokensTested base patches counts).all Tag.isReadable =
      (patchesTested base patches).all fun p =>
        (readInTurn (patchTokenHolds base counts) p.tags).all Tag.isReadable := by
  rw [tokensTested, List.all_flatMap]
  congr 1
  funext p
  unfold tokensToTest
  dsimp only
  split
  · rw [List.all_append, List.all_eq_true.mpr hbase, Bool.and_true]
  · rfl

theorem joined_draftOf (separator : String) (base : Step) (applied : List StepPatch) :
    Draft.joined separator (textPieces Json.given? (draftOf base).text
        ((applied.map draftOfPatch).map (·.text))) =
      .ok (.str (composedText separator applied base.text)) := by
  have htexts : (applied.map draftOfPatch).map (·.text) =
      (applied.map (·.text)).map (TextChangeOf.map Json.str) := by
    rw [List.map_map, List.map_map]
    rfl
  have hpieces : textPieces Json.given? (draftOf base).text
      ((applied.map (·.text)).map (TextChangeOf.map Json.str)) =
        (textPieces properText? base.text (applied.map (·.text))).map Json.str :=
    textPieces_map given?_str base.text _
  rw [htexts, hpieces, joined_map_str]
  rfl

end Questline
