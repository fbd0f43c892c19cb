import Mathlib.Tactic.SplitIfs
import ScanRoster.CommandLine.FileTree

/-!
# A file that was written is read

Writing a file exchanges what stands under one full path, and this is no folder.  So the path leads
there as before, and what is read is what was written (`read_of_write`).
-/

namespace ScanRoster.CommandLine.FileTree

variable {t t' : FileTree} {parts : List String} {n : FileNode}

theorem node?_put (t : FileTree) (parts q : List String) (n : FileNode) :
    (t.put parts n).node? q = if q = parts then some n else t.node? q := by
  rw [put]
  split
  · next hthere =>
      have hkeys : ((·.1 == q) ∘ fun f : List String × FileNode =>
          if f.1 = parts then (f.1, n) else (f.1, f.2)) = (·.1 == q) := by
        funext f
        dsimp only [Function.comp]
        split <;> rfl
      rw [node?, List.find?_map, hkeys, node?]
      cases hfind : t.nodes.find? (·.1 == q) with
      | none =>
          have hne : q ≠ parts := by
            rintro rfl
            obtain ⟨f, hf, hq⟩ := List.any_eq_true.mp hthere
            exact List.find?_eq_none.mp hfind f hf hq
          rw [if_neg hne]
          rfl
      | some f =>
          obtain rfl : f.1 = q := by simpa using List.find?_some hfind
          by_cases hf : f.1 = parts
          · simp [hf]
          · simp [hf]
  · next hnew =>
      rw [node?, List.find?_append, node?]
      by_cases hq : q = parts
      · subst hq
        have hnone : t.nodes.find? (·.1 == q) = none := by
          rw [List.find?_eq_none]
          intro f hf hfq
          exact hnew (List.any_eq_true.mpr ⟨f, hf, hfq⟩)
        simp [hnone]
      · simp [hq, Ne.symm hq]

/-- Only from a folder a path leads on. -/
theorem folder_of_follow {part : String} {done path r : List String}
    (h : t.follow done (part :: path) = .ok r) : t.node? done = some .folder := by
  rw [follow] at h
  split at h
  · assumption
  · exact absurd h nofun
  · exact absurd h nofun

/-- A path leads where it led if what is put somewhere replaces no folder. -/
theorem follow_put (hparts : t.node? parts ≠ some .folder) (n : FileNode) {path done r : List String}
    (h : t.follow done path = .ok r) : (t.put parts n).follow done path = .ok r := by
  -- on the path, which goes through folders only, so never through the place in question
  induction path generalizing done with
  | nil => exact h
  | cons part path ih =>
      have hfolder := folder_of_follow h
      have hne : done ≠ parts := by
        rintro rfl
        exact hparts hfolder
      rw [follow, hfolder] at h
      rw [follow, node?_put, if_neg hne, hfolder]
      dsimp only at h ⊢
      split_ifs at h ⊢ <;> exact ih h

/-- What is read from a file is what was written to it. -/
theorem read_of_write {path s : String} (h : t.write path s = .ok t') : t'.read path = .ok s := by
  rw [write, locate] at h
  cases hfollow : t.follow (t.origin path) (steps path) with
  | error e =>
      rw [hfollow] at h
      exact absurd h nofun
  | ok parts =>
      rw [hfollow] at h
      have hparts : t.node? parts ≠ some .folder := by
        intro hfolder
        simp [Except.map, hfolder] at h
      have hput : t' = t.put parts (.text s) := by
        simp only [Except.map] at h
        exact (Except.ok.inj h).symm
      have hhere : (t.put parts (.text s)).origin path = t.origin path := by
        simp only [origin, put, apply_ite FileTree.here, ite_self]
      rw [hput, read, locate, hhere, follow_put hparts _ hfollow]
      simp [Except.map, node?_put]

end ScanRoster.CommandLine.FileTree
