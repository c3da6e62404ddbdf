import RowQuery.Condition.Evaluation
import RowQuery.Condition.Parsing
import RowQuery.Csv
import RowQuery.Dataset.Aggregate
import RowQuery.Dataset.Grouping
import RowQuery.Dataset.Join
import RowQuery.Dataset.Page
import RowQuery.Dataset.Projection
import RowQuery.Dataset.Sort
import RowQuery.FileScript
import RowQuery.Json.Records
/-!
# The pipeline

A pipeline starts from a dataset, which it keeps, and every step replaces its current
dataset. Questions about the current dataset leave it as it is.
-/

namespace RowQuery

/-- The records that satisfy the condition. -/
def Dataset.filterBy (rs : Dataset) (c : Condition) : Dataset := rs.filter c.holds

structure Pipeline where
  source : Dataset
  current : Dataset
  settings : Settings

namespace Pipeline

def ofDataset (rs : Dataset) (settings : Settings) : Pipeline :=
  { source := rs, current := rs, settings }

/-- Replaces the current dataset. -/
def advance (p : Pipeline) (f : Dataset → Dataset) : Pipeline :=
  { p with current := f p.current }

/-- Steps can change places if what they make of the current dataset is the same. -/
theorem advance_comm {p : Pipeline} {f g : Dataset → Dataset} (h : g (f p.current) = f (g p.current)) :
    (p.advance f).advance g = (p.advance g).advance f :=
  congrArg (fun rs => { p with current := rs }) h

/-- Goes back to the dataset the pipeline started from. -/
def reset (p : Pipeline) : Pipeline := { p with current := p.source }

/-! ## Steps -/

def select (p : Pipeline) (columns : List String) : Pipeline :=
  p.advance (·.project (.ofColumns columns))

def filterBy (p : Pipeline) (c : Condition) : Pipeline := p.advance (·.filterBy c)

/-- Filters by the condition that a text and its parameters spell. -/
def filter (p : Pipeline) (condition : String) (params : List Value) : Pipeline :=
  p.filterBy (.parse condition params)

def sortBy (p : Pipeline) (column : String) (direction : SortDirection) : Pipeline :=
  p.advance (·.sortBy column direction)

def limit (p : Pipeline) (count offset : Nat) : Pipeline := p.advance (·.limit count offset)

def join (p : Pipeline) (j : Join) : Pipeline := p.advance (·.join j)

/-! ## Questions -/

/-- The current dataset as JSON text. -/
def jsonText (p : Pipeline) : String := (Dataset.toJson p.current).text p.settings.layout

/-- What an export did. -/
inductive ExportOutcome where
  | written (rows : Nat)
  /-- There was no record, and no file was made. -/
  | skipped
deriving DecidableEq

/-- Writes the current dataset as a table, if it has records. -/
def exportCsv (p : Pipeline) (path : String) : FileScript (Except FileError ExportOutcome) :=
  match p.current.csv? p.settings with
  | none => return .ok .skipped
  | some bytes => do
    match ← .writeFile path ⟨bytes.toArray⟩ with
    | .error e => return .error e
    | .ok () => return .ok (.written p.current.length)

end Pipeline

end RowQuery
