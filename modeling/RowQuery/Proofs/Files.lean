import RowQuery.Directory
import Mathlib.Tactic.SplitIfs
/-!
# A directory is a file system

The laws that are relied on of files hold for a `Directory`. A path that leads to a file leads there
whatever files there are, so that what is written is read back at the same path.
-/

namespace RowQuery.Directory

variable {d after : Directory} {path name : String} {bytes : ByteArray}

theorem beyond_ne_file (e : FileError) (parts : List String) : beyond e parts ≠ .ok (.file name) := by
  rw [beyond]
  split <;> simp

/-- A path that leads to a file leads there whatever files there are. -/
theorem follow_of_file (after : Directory) {steps : String} {parts : List String}
    (h : d.follow steps parts = .ok (.file name)) : after.follow steps parts = .ok (.file name) := by
  induction parts generalizing steps with
  | nil => cases h
  | cons part parts ih =>
    rw [follow] at h ⊢
    split_ifs at h ⊢
    · exact ih h
    · exact ih h
    · exact absurd h (beyond_ne_file _ _)
    · exact h

theorem resolve_of_file (after : Directory) (h : d.resolve path = .ok (.file name)) :
    after.resolve path = .ok (.file name) := by
  rw [resolve] at h ⊢
  split_ifs at h ⊢
  · exact follow_of_file after h
  · exact follow_of_file after h

theorem locate?_of_resolve (h : d.resolve path = .ok (.file name)) : d.locate? path = some name := by
  rw [locate?, h]

theorem written_of_write (h : d.write path bytes = .ok after) : FileSystem.Written d path bytes after := by
  rw [write] at h
  cases hplace : d.resolve path with
  | error e =>
    rw [hplace] at h
    cases h
  | ok place =>
    rw [hplace] at h
    cases place with
    | directory | noDirectory => cases h
    | file name =>
      obtain rfl := Except.ok.inj h
      refine ⟨?_, fun other hother => ?_⟩
      · show read _ path = _
        rw [read, resolve_of_file _ hplace]
        simp only [find?_setEntry, if_true]
      · by_cases hname : name = other
        · exact hname ▸ locate?_of_resolve hplace
        · refine absurd ?_ hother
          show file? _ other = file? d other
          rw [file?, find?_setEntry, if_neg hname, file?]

theorem fileSystem_write (d : Directory) (path : String) (bytes : ByteArray) :
    FileSystem.write d path bytes =
      match d.write path bytes with
      | .error e => (.error e, d)
      | .ok after => (.ok (), after) := rfl

instance : LawfulFileSystem Directory where
  read_empty _ := rfl
  failed_write {before after path bytes e} h := by
    rw [fileSystem_write] at h
    cases hwrite : before.write path bytes with
    | error e' =>
      rw [hwrite] at h
      exact (Prod.mk.inj h).2.symm
    | ok _ =>
      rw [hwrite] at h
      cases h
  written {before after path bytes} h := by
    rw [fileSystem_write] at h
    cases hwrite : before.write path bytes with
    | error e =>
      rw [hwrite] at h
      cases h
    | ok files =>
      rw [hwrite] at h
      exact written_of_write ((Prod.mk.inj h).2 ▸ hwrite)

end RowQuery.Directory
