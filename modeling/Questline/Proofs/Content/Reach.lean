import Questline.Pursuit
import Questline.Proofs.Attempt
import Questline.Proofs.Content.Indexes
import Questline.Proofs.Content.Soundness

/-!
# Tokens that a session can come across

Composition makes up no tokens: whatever stands on a composed step or on its
options has been written in the step or in one of the patches.  In content that
was built the number of every token is short enough to be read, so nothing that
composition leads to is unreadable.
-/

namespace Questline

variable {c : Content} {token : String}

/-! ## Where tokens come from -/

theorem readInTurn_subset (holds : String → Bool) (tokens : List String) :
    readInTurn holds tokens ⊆ tokens := by
  induction tokens with
  | nil => exact List.Subset.refl _
  | cons token tokens ih =>
      unfold readInTurn
      split
      · exact List.cons_subset_cons token ih
      · exact List.cons_subset_cons token (List.nil_subset _)

theorem mem_tokens_of_mem_compose {separator : String} {base : Step} {patches : List StepPatch}
    {counts : Counts} (h : token ∈ (compose separator base patches counts).tokens) :
    token ∈ base.tokens ∨ ∃ p ∈ patches, token ∈ p.tokens := by
  have happlied : ∀ p ∈ applicable base patches counts, p ∈ patches :=
    fun p hp => (List.mem_filter.mp hp).1
  unfold compose at h
  split at h
  · exact .inl h
  · simp only [StepOf.tokens, PatchOf.tokens, withPatches, List.mem_append, List.mem_flatMap] at h ⊢
    rcases h with (hbase | ⟨p, hp, hmutation⟩) | ⟨o, hbase | ⟨p, hp, ho⟩, htoken⟩
    · exact .inl (.inl hbase)
    · exact .inr ⟨p, happlied p hp, .inl (List.mem_filter.mp hmutation).1⟩
    · exact .inl (.inr ⟨o, hbase, htoken⟩)
    · exact .inr ⟨p, happlied p hp, .inr ⟨o, ho, htoken⟩⟩

/-- What holds of every token in the content holds of those on its composed steps. -/
theorem Content.forall_mem_compose (c : Content) {P : String → Prop}
    (hsteps : ∀ s ∈ c.steps, ∀ token ∈ s.tokens, P token)
    (hpatches : ∀ p ∈ c.patches, ∀ token ∈ p.tokens, P token) {separator : String} {base : Step}
    {counts : Counts} (hbase : base ∈ c.steps)
    (h : token ∈ (compose separator base (c.patchesFor base.id) counts).tokens) : P token := by
  rcases mem_tokens_of_mem_compose h with htoken | ⟨p, hp, htoken⟩
  · exact hsteps base hbase token htoken
  · exact hpatches p (c.patchesFor_subset base.id hp) token htoken

/-! ## Tokens that can be read -/

/-- No token in the content has a number too long to be read. -/
structure Content.Readable (c : Content) : Prop where
  steps : ∀ s ∈ c.steps, ∀ token ∈ s.tokens, Tag.isReadable token = true
  patches : ∀ p ∈ c.patches, ∀ token ∈ p.tokens, Tag.isReadable token = true

theorem SoundToken.isReadable {allowBase : Bool} (h : SoundToken allowBase token) :
    Tag.isReadable token = true := by
  by_contra hunreadable
  have hread := h.readable
  rw [Tag.read, if_neg hunreadable] at hread
  contradiction

theorem isReadable_of_sound {allowBase : Bool} {w : Json} {tags : List String} {xs : List Json}
    {options : List StepOption} (htags : SoundTags allowBase w tags)
    (hoptions : List.Forall₂ SoundOption xs options)
    (h : token ∈ tags ++ options.flatMap (·.tags)) : Tag.isReadable token = true := by
  rcases List.mem_append.mp h with htoken | htoken
  · exact (htags.sound token htoken).isReadable
  · obtain ⟨o, ho, htoken⟩ := List.mem_flatMap.mp htoken
    obtain ⟨x, -, hsound⟩ := exists_mem_of_forall₂ hoptions ho
    exact (hsound.tags.sound token htoken).isReadable

theorem Content.readable_of_build {source : Option String} {payload : Payload}
    (h : build source payload = .ok c) : c.Readable := by
  have hbuilt := built_of_build h
  constructor
  · intro s hs token htoken
    obtain ⟨r, hsound⟩ := exists_soundStep hbuilt hs
    exact isReadable_of_sound hsound.tags hsound.options htoken
  · intro p hp token htoken
    obtain ⟨r, hsound⟩ := exists_soundPatch hbuilt hp
    exact isReadable_of_sound hsound.tags hsound.options htoken

theorem Content.Readable.compose (hc : c.Readable) {separator : String} {base : Step}
    {counts : Counts} (hbase : base ∈ c.steps)
    (h : token ∈ (compose separator base (c.patchesFor base.id) counts).tokens) :
    Tag.isReadable token = true :=
  c.forall_mem_compose hc.steps hc.patches hbase h

end Questline
