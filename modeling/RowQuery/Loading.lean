import RowQuery.FileScript
import RowQuery.Json.Records
/-!
# Loading a dataset

A dataset is a file with JSON text in UTF-8.
-/

namespace RowQuery

/-- Why no dataset could be loaded. -/
inductive LoadError where
  | file (e : FileError)
  /-- The bytes are not JSON. -/
  | malformed
  | input (e : InputError)

namespace Dataset

/-- The dataset that JSON text spells. -/
def ofText (text : String) : Except LoadError Dataset :=
  match Json.parse? text.toList with
  | none => .error .malformed
  | some j =>
    match Dataset.ofJson j with
    | .error e => .error (.input e)
    | .ok rs => .ok rs

def ofBytes (bytes : ByteArray) : Except LoadError Dataset :=
  match String.fromUTF8? bytes with
  | none => .error .malformed
  | some text => ofText text

/-- The dataset of a file that was read. A directory can be opened, but what it gives is no JSON. -/
def ofReading : Except FileError ByteArray → Except LoadError Dataset
  | .error .isADirectory => .error .malformed
  | .error e => .error (.file e)
  | .ok bytes => ofBytes bytes

/-- Loads the dataset at a path. -/
def load (path : String) : FileScript (Except LoadError Dataset) := do
  return ofReading (← .readFile path)

theorem runOn_load {Files : Type} [FileSystem Files] (path : String) (files : Files) :
    (load path).runOn files = (ofReading (FileSystem.read files path), files) := rfl

end Dataset

end RowQuery
