import Questline.Files.Document
import Questline.Proofs.Files.Folder

/-!
# Reading documents

What can keep a file from being read as a value.  A file that cannot be opened
is reported in words, unless its path is none that a file can have.
-/

namespace Questline

theorem FileContent.value_ne_file (content : FileContent) (f : FileFault) :
    content.value ≠ .error (.file f) := by
  have htext : ∀ text, readText text ≠ .error (.file f) := by
    intro text
    unfold readText
    split <;> simp
  cases content with
  | document v => simp [value]
  | text s => exact htext s
  | bytes bs =>
      rw [value]
      split
      · exact htext _
      · simp

namespace FileTree

variable {t : FileTree} {p : FilePath} {f : FileFault}

/-- On the way along a path names are too long or folders are missing; that a name is none at all
shows before. -/
theorem obstacleFrom_ne_nullCharacter (t : FileTree) (above : Location) (parts : List String) :
    t.obstacleFrom above parts ≠ some .nullCharacter := by
  induction parts generalizing above with
  | nil => simp [obstacleFrom]
  | cons part parts ih =>
      unfold obstacleFrom
      split
      · exact ih _
      · split
        · simp
        · split
          · simp
          · split
            · exact ih _
            · simp
            · simp

theorem obstacle?_eq_nullCharacter_iff :
    t.obstacle? p = some .nullCharacter ↔ p.isWritable = false := by
  unfold obstacle?
  cases p.isWritable with
  | false => simp
  | true =>
      have hparts := t.obstacleFrom_ne_nullCharacter [] p.parts
      simp only [Bool.not_true, Bool.false_eq_true, if_false, Bool.true_eq_false, iff_false]
      split
      · simp
      · split
        · simp
        · exact hparts

/-- A file that cannot be opened is reported in words exactly if its path can be one of a file. -/
theorem message?_of_read (h : t.read p = .error f) : f.message?.isSome = p.isWritable := by
  have hwords : f.message?.isSome = true ↔ f.kind ≠ .nullCharacter := by
    obtain ⟨kind, path⟩ := f
    cases kind <;> simp [FileFault.message?, FileFaultKind.notice?]
  have hkind : f.kind = .nullCharacter ↔ p.isWritable = false := by
    rw [← obstacle?_eq_nullCharacter_iff (t := t)]
    unfold read entry at h
    cases hobstacle : t.obstacle? p with
    | some kind =>
        rw [hobstacle] at h
        obtain rfl := Except.error.inj h
        simp
    | none =>
        rw [hobstacle] at h
        simp only [bind, Except.bind, throw, throwThe, MonadExceptOf.throw] at h
        split at h
        all_goals cases h
        all_goals simp
  cases hwritable : p.isWritable with
  | false => simpa [hwritable, hkind] using hwords
  | true => simpa [hwritable, hkind] using hwords

end FileTree

end Questline
