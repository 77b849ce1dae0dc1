import Questline.Proofs.Config.Ranges
import Questline.Proofs.Player.Experience
import Questline.Proofs.Player.Normality
import Questline.Proofs.Session.Keeping
import Questline.Proofs.Session.LevelUp

/-!
# Normal players

The one field of a player that could leave its range is the experience.  It is
nothing for a new character, no exit of a turn takes any of it away, and so the
player of a session stays normal, and repair before a save has nothing to do.
-/

namespace Questline

theorem xp_writeLog (config : Config) (log : Option String) (p : Player) :
    (writeLog config log p).xp = p.xp := by
  unfold writeLog
  split <;> rfl

theorem xp_le_execute {config : Config} (hquest : 0 ≤ config.questXp) (s : Step) (p : Player)
    (draws : Draws) : p.xp ≤ (execute config s p draws).player.xp := by
  have hmutated := p.xp_le_applyTokens hquest s.tags
  simpa [execute, mutate, xp_writeLog, Player.xp_settleVariables] using hmutated

namespace Session

variable {s : Session} {a : Action} {t : Turn}

theorem Landing.xp_le {earlier : Option Mutations} {target : Option String}
    (h : Landing s earlier target t) (hquest : 0 ≤ s.config.questXp) :
    s.player.xp ≤ t.session.player.xp := by
  cases h with
  | shown => exact xp_le_execute hquest _ _ _
  | lost => exact le_rfl
  | ended => exact le_rfl

/-- No turn makes the experience negative: a game that is started has none, and no other exit takes
any away. -/
theorem Exit.xp_nonneg (h : Exit s a t) (hquest : 0 ≤ s.config.questXp) (hs : 0 ≤ s.player.xp) :
    0 ≤ t.session.player.xp := by
  have hcharged : ∀ o, s.player.xp ≤ (s.charged o).player.xp := fun o =>
    s.player.xp_le_applyTokens hquest o.tags
  cases h with
  | started => exact le_rfl
  | arrived => exact hs.trans (xp_le_execute hquest _ _ _)
  | nothingHere => exact hs
  | notOffered => exact hs
  | asked => exact hs.trans (hcharged _)
  | chosen _ _ landing => exact (hs.trans (hcharged _)).trans (landing.xp_le hquest)
  | notPending => exact hs
  | rolled => exact hs
  | notDecided => exact hs
  | continued _ landing => exact hs.trans (landing.xp_le hquest)
  | raised => exact hs
  | left => exact hs

/-- Nobody whose experience is negative is handed over during a run, and nobody is left with it. -/
theorem xp_nonneg_along (hquest : 0 ≤ s.config.questXp) (hs : 0 ≤ s.player.xp) (as : List Action) :
    ∀ p ∈ (s.run as).player :: s.keptAlong as, 0 ≤ p.xp := by
  induction as generalizing s with
  | nil => simpa [run, keptAlong] using hs
  | cons a as ih =>
      have hexit := perform_exit s a
      have hnext : 0 ≤ (s.perform a).session.player.xp := hexit.xp_nonneg hquest hs
      have hconfig : 0 ≤ (s.perform a).session.config.questXp := by
        rw [config, hexit.content]
        exact hquest
      have hrest := ih hconfig hnext
      rw [List.forall_mem_cons] at hrest ⊢
      refine ⟨hrest.1, ?_⟩
      intro p hp
      rcases List.mem_append.mp hp with hp | hp
      · -- whoever is handed over is the player the turn ends with
        exact hexit.settled.eq_of_mem hp ▸ hnext
      · exact hrest.2 p hp

/-- Whatever is written, what is read from it is normal.  A normal sheet is read back as itself and
is kept by repair as it is.  What a new character is made of is repaired as well, whatever was
chosen for it; and a normal player stays normal through every run, on all content that was built, so
that the repair before a save gives back every player who is handed over, but for a pending
level-up, which is not part of the sheet. -/
theorem players_stay_normal :
    (∀ v, (LooseSheet.ofJson v).repair = .ok (.ofJson v) ∧ (Player.ofJson v).toLoose.IsNormal) ∧
    (∀ sheet : LooseSheet, sheet.IsNormal →
      LooseSheet.ofJson sheet.toJson = sheet ∧
        ∃ p, sheet.repair = .ok p ∧ Player.ofJson sheet.toJson = p ∧ p.toLoose.Same sheet) ∧
    (∀ config chosen, (LooseSheet.starting config chosen).repair =
      .ok (.new config none (Player.chosenStats chosen))) ∧
    (∀ source payload content, Content.build source payload = .ok content →
      0 ≤ content.config.questXp) ∧
    ∀ (content : Content) (player : Option Player) (draws : Draws) (as : List Action),
      0 ≤ content.config.questXp → (∀ p ∈ player, p.toLoose.IsNormal) →
        let start := begin content player draws
        ∀ p ∈ (start.run as).player :: start.keptAlong as,
          p.toLoose.IsNormal ∧ p.toLoose.repair = .ok { p with leveledUp := false } := by
  refine ⟨?_, ?_, LooseSheet.repair_starting, ?_, ?_⟩
  · intro v
    have hread := LooseSheet.repair_ofJson v
    exact ⟨hread, LooseSheet.isNormal_toLoose (LooseSheet.xp_nonneg_of_repair hread)⟩
  · intro sheet hsheet
    obtain ⟨p, hp, hsame⟩ := hsheet.exists_repair
    have hsheet' := hsheet.ofJson_toJson
    have hread := LooseSheet.repair_ofJson sheet.toJson
    rw [hsheet', hp] at hread
    exact ⟨hsheet', p, hp, (Except.ok.inj hread).symm, hsame⟩
  · intro source payload content built
    exact (Content.isClamped_of_build built).questXp_nonneg
  · intro content player draws as hquest hplayer start p hp
    have hstart : 0 ≤ start.player.xp := by
      cases player with
      | none => exact le_rfl
      | some q => exact LooseSheet.isNormal_toLoose_iff.mp (hplayer q rfl)
    have hconfig : 0 ≤ start.config.questXp := by cases player <;> exact hquest
    have hxp := xp_nonneg_along hconfig hstart as p hp
    refine ⟨LooseSheet.isNormal_toLoose hxp, ?_⟩
    rw [p.repair_toLoose, Player.repaired_eq_self hxp]

/-- A sheet with something wrong in nearly every field. -/
def tornSheet : Json :=
  .obj
    [("tags", .arr [.str "quest", .int 5]), ("variables", .arr []),
      ("stats", .obj [("luck", .int 7), ("might", .bool true)]), ("xp", .str "many"),
      ("steps_completed", .int (-2))]

/-- The player of the torn sheet ends the quest at the gate. -/
theorem players_stay_normal_at_gate :
    let torn := Player.ofJson tornSheet
    let start := begin errandContent (some torn) {}
    let p := (start.run [.navigate "Gate"]).player
    0 ≤ errandContent.config.questXp ∧ torn.toLoose.IsNormal ∧
      (∃ q, torn.toLoose.repair = .ok q ∧ Player.ofJson torn.toLoose.toJson = q ∧
        q.toLoose.Same torn.toLoose) ∧
      p.xp = 1 ∧ p.toLoose.IsNormal ∧ p.toLoose.repair = .ok { p with leveledUp := false } := by
  intro torn start p
  obtain ⟨hread, hkept, -, -, hrun⟩ := players_stay_normal
  have hquest : 0 ≤ errandContent.config.questXp := by decide
  have htorn : torn.toLoose.IsNormal := (hread tornSheet).2
  obtain ⟨hnormal, hrepair⟩ := hrun errandContent (some torn) {} [.navigate "Gate"] hquest
    (fun q hq => Option.some.inj hq ▸ htorn) p List.mem_cons_self
  exact ⟨hquest, htorn, (hkept torn.toLoose htorn).2, by decide +kernel, hnormal, hrepair⟩

end Session

end Questline
