import RowQuery.Job
import RowQuery.Loading
import RowQuery.Pipeline
import RowQuery.Shell.Command
import RowQuery.Table
/-!
# What a shell command does

A command works on the pipeline of the shell, which it changes in place, and prints as it goes. It
may fail, on files that it reads or writes, or crash on a table that is too wide. What it has done to
the pipeline by then is not undone: that a command which fails has done nothing is a matter of the
order in which it goes about its work.
-/

namespace RowQuery.Shell

/-- Why a line was not carried out. -/
inductive LineError where
  | parse (e : ParseError)
  | load (path : String) (e : LoadError)
  | file (e : FileError)

def LineError.message : LineError → String
  | parse e => e.message
  | load path _ => "Failed to load " ++ path
  | file e => "I/O error: " ++ e.message

/-- What a command works on. -/
structure State where
  pipeline : Pipeline
  /-- What has been printed so far. -/
  output : String

abbrev Action := Job LineError State

/-! ## Texts -/

/-- The help text. -/
def helpText : String :=
  "Pipeline commands (each applies to the current records):\n" ++
  "  where <condition> [| p1, p2]  - Keep matching records; ? binds p1, p2 ...\n" ++
  "  select <col>, <col> | *       - Keep only these columns\n" ++
  "  order <column> [asc|desc]     - Sort by a column\n" ++
  "  limit <count> [offset]        - Keep a slice of records\n" ++
  "  join <file> <local> = <foreign> [inner|left] [alias]\n" ++
  "                                - Join with records from a JSON file\n" ++
  "  reset                         - Go back to the loaded records\n" ++
  "\n" ++
  "Results:\n" ++
  "  show | count | json           - Print the current records\n" ++
  "  group <column>                - Group sizes per value\n" ++
  "  agg <col:FUNC>...             - SUM, AVG, MIN, MAX or COUNT\n" ++
  "  page <page> <per_page>        - Print one page\n" ++
  "  csv <path>                    - Export as CSV\n" ++
  "\n" ++
  "Other commands:\n" ++
  "  help                          - Display this help message\n" ++
  "  exit                          - Exit the shell\n"

/-- The line of a group, with its key and its size. -/
def groupLine (g : Group) : String := g.key.display ++ ": " ++ toString g.records.length ++ " rows\n"

/-- A line for each group. -/
def groupLines (g : Grouping) : String := String.join (g.groups.map groupLine)

/-- A line for each aggregate. -/
def aggregateLines (results : List (String × Value)) : String :=
  String.join (results.map fun (column, v) => column ++ " = " ++ v.display ++ "\n")

/-- Which page was printed. -/
def pageLine (number : Nat) (p : Page) : String :=
  "page " ++ toString (max number 1) ++ " of " ++ toString p.pages ++ " (" ++ toString p.total ++ " total)\n"

def exportLine (path : String) : Pipeline.ExportOutcome → String
  | .written rows => "Wrote " ++ toString rows ++ " rows to " ++ path ++ "\n"
  | .skipped => "Nothing to export\n"

/-! ## Commands -/

namespace Action

def print (text : String) : Action Unit := modify fun s => { s with output := s.output ++ text }

/-- Prints a table, or as much of it as the formatter can make. -/
def display (rs : Dataset) : Action Unit := do
  print rs.table.text
  match rs.table.crash? with
  | none => return ()
  | some c => throw (.crashed c)

/-- The pipeline of the shell. -/
def pipeline : Action Pipeline := return (← get).pipeline

/-- Takes the pipeline out of the state, with an empty one to stand in for it, and puts back what a
step makes of it. -/
def chain (step : Pipeline → Pipeline) : Action Unit := do
  let p ← modifyGet fun s => (s.pipeline, { s with pipeline := .ofDataset [] .standard })
  modify fun s => { s with pipeline := step p }

/-- Prints how many records the pipeline has. -/
def countRows : Action Unit := do print (rowCount (← pipeline).current.length)

variable {Files : Type} [FileSystem Files] (s : State) (files : Files)

@[simp] theorem endsIn_print (text : String) :
    (print text).endsIn s files = ((.ok (), { s with output := s.output ++ text }), files) := rfl

@[simp] theorem endsIn_display (rs : Dataset) :
    (display rs).endsIn s files =
      ((rs.table.crash?.elim (.ok ()) fun c => .error (.crashed c), { s with output := s.output ++ rs.table.text }),
        files) := by
  rw [display, Job.endsIn_bind, endsIn_print]
  cases rs.table.crash? <;> rfl

@[simp] theorem endsIn_pipeline : pipeline.endsIn s files = ((.ok s.pipeline, s), files) := rfl

@[simp] theorem endsIn_chain (step : Pipeline → Pipeline) :
    (chain step).endsIn s files = ((.ok (), { s with pipeline := step s.pipeline }), files) := rfl

@[simp] theorem endsIn_countRows :
    countRows.endsIn s files =
      ((.ok (), { s with output := s.output ++ rowCount s.pipeline.current.length }), files) := rfl

end Action

open Shell.Action in
/-- Carries a command out. The answer is whether the shell goes on. -/
def Command.run : Command → Action Bool
  | filter condition params => do
    chain (·.filter condition params)
    countRows
    return true
  | select columns => do
    chain (·.select columns)
    return true
  | sort column direction => do
    chain (·.sortBy column direction)
    return true
  | limit number offset => do
    chain (·.limit number offset)
    countRows
    return true
  | join path localKey _ foreignKey kind alias? => do
    let foreign ← .ofFiles (.load path) (Dataset.load path)
    chain (·.join { foreign, localKey, foreignKey, kind, alias? })
    countRows
    return true
  | group column => do
    print (groupLines (Dataset.groupBy (← pipeline).current column))
    return true
  | aggregate fields => do
    print (aggregateLines (Dataset.aggregate (← pipeline).current fields))
    return true
  | page number perPage => do
    let page := Dataset.page (← pipeline).current number perPage
    display page.data
    print (pageLine number page)
    return true
  | exportCsv path => do
    let outcome ← .ofFiles .file ((← pipeline).exportCsv path)
    print (exportLine path outcome)
    return true
  | json => do
    print ((← pipeline).jsonText ++ "\n")
    return true
  | table => do
    display (← pipeline).current
    return true
  | count => do
    print (toString (← pipeline).current.length ++ "\n")
    return true
  | reset => do
    chain Pipeline.reset
    countRows
    return true
  | help => do
    print helpText
    return true
  | exit => return false

/-- Carries out the command that a line spells. -/
def carryOut (line : String) : Action Bool :=
  match Command.parse line with
  | .error e => throw (.failed (.parse e))
  | .ok command => command.run

end RowQuery.Shell
