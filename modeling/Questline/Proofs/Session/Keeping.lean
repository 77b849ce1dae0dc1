import Questline.Proofs.Session.Turns

/-!
# Handing over the player

A turn that changes what is written of the player hands over the player, once
and as the last thing it does.  Along a run the last player handed over is
therefore always as good as the present one.
-/

namespace Questline

/-- Either nobody was handed over and the player is as before, or the player was handed over once,
as it is at the end of the turn. -/
def Turn.Settled (t : Turn) (before : Player) : Prop :=
  (t.kept = [] ∧ t.session.player = before) ∨ t.kept = [t.session.player]

namespace Turn.Settled

variable {t : Turn} {before : Player}

theorem kept_length_le (h : t.Settled before) : t.kept.length ≤ 1 := by
  rcases h with ⟨hkept, -⟩ | hkept <;> simp [hkept]

theorem eq_of_mem {p : Player} (h : t.Settled before) (hp : p ∈ t.kept) : p = t.session.player := by
  rcases h with ⟨hkept, -⟩ | hkept
  · simp [hkept] at hp
  · simpa [hkept] using hp

theorem kept_of_change (h : t.Settled before) (change : t.session.player.toJson ≠ before.toJson) :
    ∃ p, t.kept = [p] ∧ p.toJson = t.session.player.toJson := by
  rcases h with ⟨-, hsame⟩ | hkept
  · exact absurd (congrArg Player.toJson hsame) change
  · exact ⟨t.session.player, hkept, rfl⟩

theorem getLastD_kept (h : t.Settled before) : t.kept.getLastD before = t.session.player := by
  rcases h with ⟨hkept, hsame⟩ | hkept <;> simp [*]

end Turn.Settled

namespace Session

variable {s : Session} {a : Action} {t : Turn}

theorem settled_keep (s : Session) (outcome : Option Outcome) (before : Player) :
    (s.keep outcome).Settled before :=
  .inr rfl

theorem Landing.settled {earlier : Option Mutations} {target : Option String}
    (h : Landing s earlier target t) (before : Player) : t.Settled before := by
  cases h with
  | shown => exact settled_keep _ _ before
  | lost => exact settled_keep _ _ before
  | ended => exact settled_keep _ _ before

/-- Only a refusal, a location with nothing to be found and a roll hand over nobody, and none of
them touches the player. -/
theorem Exit.settled (h : Exit s a t) : t.Settled s.player := by
  cases h with
  | started => exact settled_keep _ _ _
  | arrived => exact settled_keep _ _ _
  | nothingHere => exact .inl ⟨rfl, rfl⟩
  | notOffered => exact .inl ⟨rfl, rfl⟩
  | asked => exact settled_keep _ _ _
  | chosen _ _ landing => exact landing.settled _
  | notPending => exact .inl ⟨rfl, rfl⟩
  | rolled => exact .inl ⟨rfl, rfl⟩
  | notDecided => exact .inl ⟨rfl, rfl⟩
  | continued _ landing => exact landing.settled _
  | raised => exact settled_keep _ _ _
  | left => exact settled_keep _ _ _

/-- The players handed over during a run, in order. -/
def keptAlong (s : Session) : List Action → List Player
  | [] => []
  | a :: as => (s.perform a).kept ++ (s.perform a).session.keptAlong as

/-- The last player handed over is the player of the session; before the first is handed over, the
player is the one the run began with. -/
theorem getLastD_keptAlong (s : Session) (as : List Action) :
    (s.keptAlong as).getLastD s.player = (s.run as).player := by
  induction as generalizing s with
  | nil => rfl
  | cons a as ih =>
      have hlast := (perform_exit s a).settled.getLastD_kept
      have hrest := ih (s.perform a).session
      rw [← hlast] at hrest
      rw [keptAlong, run, ← hrest, List.getLastD_eq_getLast?, List.getLastD_eq_getLast?,
        List.getLastD_eq_getLast?, List.getLast?_append]
      cases ((s.perform a).session.keptAlong as).getLast? <;> rfl

/-- No change to what is written of the player is left unsaved: every action hands over at most one
player, an action that changes what is written of the player hands over exactly one, who is written
as the player is at the end of the action, and after every run the player handed over last is
written as the present one. -/
theorem changes_are_handed_over_once (content : Content) (player : Option Player) (draws : Draws)
    (as : List Action) (a : Action) :
    let start := begin content player draws
    let s := start.run as
    let t := s.perform a
    t.kept.length ≤ 1 ∧
      (t.session.player.toJson ≠ s.player.toJson →
        ∃ p, t.kept = [p] ∧ p.toJson = t.session.player.toJson) ∧
      ((start.keptAlong as).getLastD start.player).toJson = s.player.toJson := by
  intro start s t
  have hsettled : t.Settled s.player := (perform_exit s a).settled
  refine ⟨hsettled.kept_length_le, hsettled.kept_of_change, ?_⟩
  exact congrArg Player.toJson (getLastD_keptAlong start as)

end Session

end Questline
