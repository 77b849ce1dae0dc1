import Questline.Config.Stored
import Questline.Proofs.Config.NormalForm
import Questline.Proofs.Config.Numbers
import Questline.Proofs.Files.Documents

/-!
# Loading a configuration

A file that is missing, cannot be opened or is no document gives the default
rules, and every other document gives rules that are normal.  But a path with a
null character stops the loading, and so does a file that is no text or has
values that cannot be read, or rules with an infinite number for an integer.
-/

namespace Questline.Config

variable {files : FileTree} {path : FilePath} {c : Config}

/-- What stops the loading of a configuration. -/
inductive LoadStops (files : FileTree) (path : FilePath) : Prop where
  | unusablePath (h : path.isWritable = false)
  | unreadable {f : DocumentFault} (h : f ∈ [.undecodable, .hugeInteger, .tooDeep])
    (value : files.readValue path = .error f)
  | infinite {v number : Json} (value : files.readValue path = .ok v)
    (mem : number ∈ numbersOf (rulesOf v)) (h : number.isInfinite = true)

theorem load_of_readValue {v : Json} (h : files.readValue path = .ok v) :
    load files path = ofJson (rulesOf v) := by
  simp only [load, h]

theorem load_of_malformed (h : files.readValue path = .error .malformed) :
    load files path = .ok {} := by
  simp only [load, h]
  rfl

theorem load_of_read_error {f : FileFault} (h : files.read path = .error f) :
    load files path = if path.isWritable then .ok {} else .error .unusablePath := by
  rw [load, FileTree.readValue, h, ← FileTree.message?_of_read h]
  simp only [DocumentFault.report]
  cases f.message? <;> rfl

theorem exists_ofJson_eq_ok_iff (v : Json) :
    (∃ c, ofJson v = .ok c) ↔ ∀ number ∈ numbersOf v, number.isInfinite = false := by
  have hdemands := ofJson_demands v
  cases hinfinite : (numbersOf v).any Json.isInfinite with
  | true =>
      simp only [hdemands.fails hinfinite, reduceCtorEq, exists_false, false_iff]
      intro hfinite
      obtain ⟨number, hmem, hnumber⟩ := List.any_eq_true.mp hinfinite
      rw [hfinite number hmem] at hnumber
      contradiction
  | false =>
      refine iff_of_true (hdemands.succeeds hinfinite) fun number hmem => ?_
      simpa using List.any_eq_false.mp hinfinite number hmem

theorem LoadStops.load_ne_ok (h : LoadStops files path) : load files path ≠ .ok c := by
  intro hload
  cases h with
  | unusablePath h =>
      have hread : files.read path = .error ⟨.nullCharacter, path⟩ := by
        rw [FileTree.read, FileTree.entry, FileTree.obstacle?_eq_nullCharacter_iff.mpr h]
        rfl
      rw [load_of_read_error hread, h] at hload
      contradiction
  | unreadable h value =>
      simp only [List.mem_cons, List.not_mem_nil, or_false] at h
      rw [load, value] at hload
      rcases h with rfl | rfl | rfl <;> contradiction
  | infinite value mem h =>
      rw [load_of_readValue value] at hload
      have hfinite := (exists_ofJson_eq_ok_iff _).mp ⟨c, hload⟩ _ mem
      rw [h] at hfinite
      contradiction

theorem exists_load_eq_ok_iff (files : FileTree) (path : FilePath) :
    (∃ c, load files path = .ok c) ↔ ¬ LoadStops files path := by
  refine ⟨fun ⟨c, hload⟩ hstops => hstops.load_ne_ok hload, fun hclear => ?_⟩
  cases hvalue : files.readValue path with
  | ok v =>
      rw [load_of_readValue hvalue, exists_ofJson_eq_ok_iff]
      intro number hmem
      rw [Bool.eq_false_iff]
      exact fun hnumber => hclear (.infinite hvalue hmem hnumber)
  | error f =>
      cases f with
      | malformed => exact ⟨{}, load_of_malformed hvalue⟩
      | file f =>
          cases hread : files.read path with
          | error g =>
              have hwritable : path.isWritable = true := by
                rw [← Bool.not_eq_false]
                exact fun h => hclear (.unusablePath h)
              rw [load_of_read_error hread, hwritable]
              exact ⟨{}, rfl⟩
          | ok content =>
              rw [FileTree.readValue, hread] at hvalue
              exact absurd hvalue (content.value_ne_file f)
      | undecodable => exact absurd (.unreadable (by simp) hvalue) hclear
      | hugeInteger => exact absurd (.unreadable (by simp) hvalue) hclear
      | tooDeep => exact absurd (.unreadable (by simp) hvalue) hclear

theorem isClamped_of_load (h : load files path = .ok c) : c.IsClamped := by
  unfold load at h
  split at h
  · exact isClamped_of_ofJson h
  · next f _ =>
      -- the defaults are within their ranges
      cases hreport : f.report with
      | error fault => simp [hreport, Except.map] at h
      | ok why =>
          rw [hreport] at h
          exact ⟨{}, (Except.ok.inj h).symm⟩

/-- Loading a configuration comes to an end exactly if nothing stops it.  Then the rules are normal:
they are the default ones where the file cannot be opened or is no document, and otherwise those
that the document describes. -/
theorem stored_rules_are_normal (files : FileTree) (path : FilePath) :
    ((∃ c, load files path = .ok c) ↔ ¬ LoadStops files path) ∧
    (∀ c, load files path = .ok c → IsNormal c.toJson ∧ c.clamp = c) ∧
    (∀ f, files.read path = .error f → path.isWritable = true → load files path = .ok {}) ∧
    (files.readValue path = .error .malformed → load files path = .ok {}) ∧
    ∀ v, files.readValue path = .ok v → load files path = ofJson (rulesOf v) := by
  refine ⟨exists_load_eq_ok_iff files path, ?_, ?_, load_of_malformed, fun v => load_of_readValue⟩
  · intro c hload
    have hclamped := isClamped_of_load hload
    exact ⟨hclamped.isNormal, hclamped.clamp_eq⟩
  · intro f hread hwritable
    rw [load_of_read_error hread, hwritable]
    rfl

/-- A byte that is no text, an infinite number and a null character in the path. -/
theorem stored_rules_can_stop :
    let files : FileTree := ⟨[(["a.json"], .file (.bytes [0xff])),
      (["b.json"], .file (.text "\x7b\"dieSides\": Infinity\x7d"))]⟩
    load files ⟨.here, ["a.json"]⟩ = .error .undecodable ∧
      load files ⟨.here, ["b.json"]⟩ = .error .infiniteNumber ∧
      load files ⟨.here, ["\x00"]⟩ = .error .unusablePath := by
  decide +kernel

end Questline.Config
