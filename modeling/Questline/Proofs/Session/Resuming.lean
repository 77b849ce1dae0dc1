import Questline.Proofs.Save.Loading
import Questline.Proofs.Session.Keeping
import Questline.Proofs.Session.LevelUp

/-!
# Going on with a saved player

A session that goes on with a player begins with the level-up, if one is
pending.  A sheet does not say so, however: the player who comes back from a
save is the one who was handed over last in everything but that, and the
session that goes on with him always begins in navigation.
-/

namespace Questline.Session

variable {s : Session} {p : Player}

theorem eq_of_getLast?_keptAlong {as : List Action} (h : (s.keptAlong as).getLast? = some p) :
    p = (s.run as).player := by
  rw [← getLastD_keptAlong, List.getLastD_eq_getLast?, h]
  rfl

theorem phase_begin_of_not_leveledUp (content : Content) (draws : Draws)
    (h : p.leveledUp = false) : (begin content (some p) draws).phase = .navigation := by
  simp [begin, resume, restPhase, h]

/-- In every session that can be reached, with the player saved when he was handed over last:
loading the slot gives that player with his log cut and without a pending level-up, unless his stat
block is too deep to be copied, and going on with him begins in navigation.  That is the phase that
he would be in between steps exactly if no level-up is pending. -/
theorem resumed_in_navigation (content : Content) (player : Option Player) (draws later : Draws)
    (as : List Action) (store : SaveStore) (hconfig : store.config = content.config)
    (files : FileTree) (name label : String) (quiet : Bool)
    (hkept : ((begin content player draws).keptAlong as).getLast? = some p) {path : FilePath}
    (hsaved : ((store.save files name p label quiet).perform files).answer = .ok path) :
    let s := (begin content player draws).run as
    let saved := ((store.save files name p label quiet).perform files).files
    let q := { SaveStore.savedPlayer content.config s.player with leveledUp := false }
    (store.load saved name false).perform saved = ⟨saved, [],
        if s.player.isRestorable then .ok (some q) else .error (.migration (.fault .tooDeep))⟩ ∧
      (begin content (some q) later).phase = .navigation ∧
      ((begin content (some q) later).phase = restPhase s.player ↔
        s.player.leveledUp = false) := by
  obtain rfl := eq_of_getLast?_keptAlong hkept
  intro s saved q
  have hphase : (begin content (some q) later).phase = .navigation :=
    phase_begin_of_not_leveledUp content later rfl
  refine ⟨?_, hphase, ?_⟩
  · have hload := SaveStore.load_of_save hsaved
    rw [hconfig, SaveStore.reloaded] at hload
    refine hload.trans (congrArg (Saved.mk saved []) ?_)
    cases s.player.isRestorable <;> rfl
  · rw [hphase]
    cases hpending : s.player.leveledUp <;> simp [restPhase, hpending]

/-- A store for the saves of the errand. -/
def errandStore : SaveStore where
  base := .ofText "saves"
  config := errandContent.config
  clock := "2000-01-01T00:00:00+00:00"

/-- The player with the level that was gained at the gate. -/
def leveledPlayer : Player where
  stats := ⟨2, 2, 2⟩
  xp := 1
  stepsCompleted := 1
  currentStepId := some "Gate"
  leveledUp := true

/-- The level gained at the gate is pending in the session, and no more once the session was left
and gone on with. -/
theorem resumed_in_navigation_after_gate :
    let as : List Action := [.start none fun _ => none, .navigate "Gate"]
    let start := begin errandContent none {}
    let files : FileTree := ⟨[(["saves"], .folder)]⟩
    let saved := (errandStore.save files "hero" leveledPlayer "" true).perform files
    (start.run as).phase = .levelUp ∧ (start.keptAlong as).getLast? = some leveledPlayer ∧
      saved.answer = .ok (errandStore.primary "hero") ∧
      ∃ q, (errandStore.load saved.files "hero" false).perform saved.files =
          ⟨saved.files, [], .ok (some q)⟩ ∧ q.xp = 1 ∧
        (begin errandContent (some q) {}).phase = .navigation := by
  intro as start files saved
  have hphase : (start.run as).phase = .levelUp := by decide +kernel
  have hkept : (start.keptAlong as).getLast? = some leveledPlayer := by decide +kernel
  have hsaved : saved.answer = .ok (errandStore.primary "hero") := by decide +kernel
  obtain ⟨hload, hresumed, -⟩ := resumed_in_navigation errandContent none {} {} as errandStore rfl
    files "hero" "" true hkept hsaved
  exact ⟨hphase, hkept, hsaved, _, hload, by decide +kernel, hresumed⟩

/-- A level-up can be pending, the player handed over and saved with it, and nothing of it left once
the slot is loaded. -/
theorem levelUp_can_be_lost_by_saving :
    (Content.build none (.ofJson errand)).toOption = some errandContent ∧
      let start := begin errandContent none {}
      let as : List Action := [.start none fun _ => none, .navigate "Gate"]
      let p := (start.run as).player
      let files : FileTree := ⟨[(["saves"], .folder)]⟩
      let saved := ((errandStore.save files "hero" p "" true).perform files).files
      (start.run as).phase = .levelUp ∧ p.leveledUp = true ∧
        (start.keptAlong as).getLast? = some p ∧
        (((errandStore.load saved "hero" false).perform saved).answer.map fun found =>
          (begin errandContent found {}).phase) = .ok .navigation := by
  decide +kernel

end Questline.Session
