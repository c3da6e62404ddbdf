import RowQuery.FileScript
import RowQuery.Printout
/-!
# Jobs

A job reads and writes files, has a state at hand that it changes in place, and may end early: it
fails with an error, which whoever started it can answer, or it crashes the program. Either way, what
it has done to its state and to the files stays done.
-/

namespace RowQuery

/-- Why a job ends early. -/
inductive Stop (ε : Type) where
  | failed (e : ε)
  | crashed (c : Crash)
deriving DecidableEq

abbrev Job (ε σ : Type) := ExceptT (Stop ε) (StateT σ FileScript)

namespace Job

variable {ε σ α β : Type}

/-- Runs a script over files, and fails for the reason that its error gives. -/
def ofFiles {δ : Type} (reason : δ → ε) (script : FileScript (Except δ α)) : Job ε σ α := do
  match ← (liftM script : Job ε σ (Except δ α)) with
  | .ok a => return a
  | .error e => throw (.failed (reason e))

/-- The script over files, which ends with the result and the state. -/
def script (job : Job ε σ α) (s : σ) : FileScript (Except (Stop ε) α × σ) := job.run.run s

/-! ## How jobs end -/

variable {Files : Type} [FileSystem Files]

/-- How a job ends: with what result, in what state, and on what files. -/
def endsIn (job : Job ε σ α) (s : σ) (files : Files) : (Except (Stop ε) α × σ) × Files :=
  (job.script s).runOn files

@[simp] theorem endsIn_pure (a : α) (s : σ) (files : Files) :
    (pure a : Job ε σ α).endsIn s files = ((.ok a, s), files) := rfl

@[simp] theorem endsIn_throw (stop : Stop ε) (s : σ) (files : Files) :
    (throw stop : Job ε σ α).endsIn s files = ((.error stop, s), files) := rfl

@[simp] theorem endsIn_lift (script : FileScript α) (s : σ) (files : Files) :
    (liftM script : Job ε σ α).endsIn s files = ((.ok (script.runOn files).1, s), (script.runOn files).2) := by
  show ((script >>= fun a => pure (a, s)) >>= fun x => pure (Except.ok x.1, x.2)).runOn files = _
  simp only [FileScript.runOn_bind, FileScript.runOn_pure]

/-- A job behind another starts from what that leaves, and is not started if it ends early. -/
theorem endsIn_bind (job : Job ε σ α) (f : α → Job ε σ β) (s : σ) (files : Files) :
    (job >>= f).endsIn s files =
      match job.endsIn s files with
      | ((.ok a, s), files) => (f a).endsIn s files
      | ((.error stop, s), files) => ((.error stop, s), files) := by
  show (job.run.run s >>= fun x => (ExceptT.bindCont f x.1).run x.2).runOn files = _
  rw [FileScript.runOn_bind, show (job.run.run s).runOn files = job.endsIn s files from rfl]
  obtain ⟨⟨result, s⟩, files⟩ := job.endsIn s files
  cases result <;> rfl

@[simp] theorem endsIn_ofFiles {δ : Type} (reason : δ → ε) (script : FileScript (Except δ α)) (s : σ)
    (files : Files) :
    (ofFiles reason script : Job ε σ α).endsIn s files =
      (((script.runOn files).1.mapError fun e => .failed (reason e), s), (script.runOn files).2) := by
  rw [ofFiles, endsIn_bind, endsIn_lift]
  cases (script.runOn files).1 <;> rfl

end Job

end RowQuery
