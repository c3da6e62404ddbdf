import RowQuery.FileSystem
/-!
# Scripts over files

A script is a computation that reads and writes files on its way: an outcome, or one
operation and what to do with its result. It can be run on any file system, which gives
the outcome and the files afterwards, and just as well on real files.
-/

namespace RowQuery

inductive FileScript (α : Type) where
  | done (outcome : α)
  | read (path : String) (next : Except FileError ByteArray → FileScript α)
  | write (path : String) (bytes : ByteArray) (next : Except FileError Unit → FileScript α)

namespace FileScript

variable {α β : Type}

def bind : FileScript α → (α → FileScript β) → FileScript β
  | done a, f => f a
  | read path next, f => read path fun result => bind (next result) f
  | write path bytes next, f => write path bytes fun result => bind (next result) f

instance : Monad FileScript where
  pure := done
  bind := bind

/-- Reads a file and ends with the result. -/
def readFile (path : String) : FileScript (Except FileError ByteArray) := read path done

/-- Writes a file and ends with the result. -/
def writeFile (path : String) (bytes : ByteArray) : FileScript (Except FileError Unit) :=
  write path bytes done

variable {Files : Type} [FileSystem Files]

/-- The outcome of a script on files, and the files afterwards. -/
def runOn (files : Files) : FileScript α → α × Files
  | done a => (a, files)
  | read path next => (next (FileSystem.read files path)).runOn files
  | write path bytes next =>
    (next (FileSystem.write files path bytes).1).runOn (FileSystem.write files path bytes).2

@[simp] theorem runOn_pure (files : Files) (a : α) : (pure a : FileScript α).runOn files = (a, files) := rfl

/-- A script run after another starts from the files that the first one leaves. -/
@[simp] theorem runOn_bind (files : Files) (s : FileScript α) (f : α → FileScript β) :
    (s >>= f).runOn files = (f (s.runOn files).1).runOn (s.runOn files).2 := by
  show (s.bind f).runOn files = _
  induction s generalizing files with
  | done a => rfl
  | read path next ih => exact ih _ files
  | write path bytes next ih => exact ih _ _

@[simp] theorem runOn_readFile (files : Files) (path : String) :
    (readFile path).runOn files = (FileSystem.read files path, files) := rfl

@[simp] theorem runOn_writeFile (files : Files) (path : String) (bytes : ByteArray) :
    (writeFile path bytes).runOn files = FileSystem.write files path bytes := rfl

end FileScript

end RowQuery
