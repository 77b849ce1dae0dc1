import Questline.Files.Tree

/-!
# Interruptions

Changes to the files can be interrupted between any two of them and in the
midst of any one.  A file that was being written may then hold anything, and of
several folders that were being made some may be there.  Only the renaming of a
file is done or not done.
-/

namespace Questline.FileTree

/-- What a change can leave behind that was interrupted. -/
inductive Partly (t : FileTree) : FileAction → FileTree → Prop
  /-- A folder inside a missing one: some of the folders above it have been made. -/
  | madeAbove {p q : FilePath} {f : FileFault} {u : FileTree} (failed : t.ensureFolder p = .error f)
      (missing : f.kind = .missing) (same : q.anchor = p.anchor) (above : q.parts <+: p.parts)
      (made : t.makeFolders q = .ok u) : Partly t (.makeFolders p) u
  | torn {p : FilePath} {content part : FileContent} {u : FileTree}
      (written : t.write p part = .ok u) : Partly t (.write p content) u
  | tornCopy {source target : FilePath} {content part : FileContent} {u : FileTree}
      (read : t.read source = .ok content)
      (written : t.write (t.copyTarget source target) part = .ok u) :
      Partly t (.copy source target) u
  /-- Some of what is in a folder, and perhaps the folder, is left. -/
  | rest {p : FilePath} (left : Location → Bool) (folder : t.isFolder p = true)
      (outside : ∀ place, ¬ p.location <+: place → left place = true) :
      Partly t (.removeTree p) ⟨t.entries.filter fun m => left m.1⟩

/-- What a list of changes can leave behind that was interrupted, or came to its end. -/
inductive Interrupted : FileTree → List FileAction → FileTree → Prop
  | before {t : FileTree} {as : List FileAction} : Interrupted t as t
  | within {t u : FileTree} {a : FileAction} {as : List FileAction} (part : t.Partly a u) :
      Interrupted t (a :: as) u
  | after {t u v : FileTree} {a : FileAction} {as : List FileAction} (done : t.perform a = .ok v)
      (rest : Interrupted v as u) : Interrupted t (a :: as) u

/-- A change that fails leaves what an interruption before it leaves. -/
theorem interrupted_performAll (t : FileTree) (as : List FileAction) :
    t.Interrupted as (t.performAll as).1 := by
  induction as generalizing t with
  | nil => exact .before
  | cons a as ih =>
      simp only [performAll]
      split
      · next v done => exact .after done (ih v)
      · exact .before

end Questline.FileTree
