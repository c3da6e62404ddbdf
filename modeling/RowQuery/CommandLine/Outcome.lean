import RowQuery.CommandLine.Arguments
import RowQuery.CommandLine.Terminal
import RowQuery.Shell.Session
/-!
# Running the program

The data file is loaded and the command run on it. A command other than the shell prints
only once nothing can fail any more.
-/

namespace RowQuery.CommandLine

open Terminal

/-! ## Queries -/

namespace Query

/-- The join of a query, with the foreign records loaded. The file is loaded before the
keys are looked at. -/
def loadJoin (q : Query) : FileScript (Except Failure (Option Join)) :=
  match q.join? with
  | none => return .ok none
  | some path => do
    match ← Dataset.load path, q.localKey?, q.foreignKey? with
    | .error e, _, _ => return .error (.load path e)
    | .ok _, none, _ => return .error .localKeyMissing
    | .ok _, some _, none => return .error .foreignKeyMissing
    | .ok foreign, some localKey, some foreignKey =>
      return .ok (some
        { foreign, localKey, foreignKey, kind := .ofText q.joinKind, alias? := q.alias? })

def direction (q : Query) : SortDirection := if q.descending then .descending else .ascending

/-- Takes a step if there is one to take. -/
def step {α : Type} (x? : Option α) (f : Pipeline → α → Pipeline) (p : Pipeline) : Pipeline :=
  match x? with
  | none => p
  | some x => f p x

/-- The steps of a query, in their order: join, condition, sort, limit, columns. -/
def steps (q : Query) (join? : Option Join) (p : Pipeline) : Pipeline :=
  let p := step join? Pipeline.join p
  let p := step q.condition? (fun p c => p.filter c (q.params.map Argument.param)) p
  let p := step q.orderBy? (fun p column => p.sortBy column q.direction) p
  let p := step q.limit? (fun p count => p.limit count q.offset) p
  step q.select? (fun p columns => p.select (Argument.columns columns)) p

def exportText (path : String) : Pipeline.ExportOutcome → String
  | .written rows => "Wrote " ++ toString rows ++ " rows to " ++ path ++ "\n"
  | .skipped => "No records; nothing written\n"

/-- Prints the result as JSON, or writes it as a table and says so. -/
def deliver (q : Query) (p : Pipeline) : Terminal Unit :=
  match q.csv? with
  | none => print (p.jsonText ++ "\n")
  | some path => do
    let outcome ← .ofFiles (.write path) (p.exportCsv path)
    printError (exportText path outcome)

def run (q : Query) (p : Pipeline) : Terminal Unit := do
  let join? ← .ofFiles id q.loadJoin
  q.deliver (q.steps join? p)

end Query

/-! ## The shell -/

/-- What is typed into the shell. -/
structure Console where
  lines : List String
  ending : Shell.Ending
  history : Shell.HistoryErrors

/-- Runs the typed lines and prints the reply to each, up to the end of the session. -/
def typeLines (p : Pipeline) (ending : Shell.Ending) : List String → Terminal Unit
  | [] => print ending.text
  | line :: lines => do
    let reply ← liftM (Shell.runLine p line)
    print reply.output
    match reply.next with
    | .goesOn => typeLines reply.pipeline ending lines
    | .leaves => return ()
    | .crashes c => throw (.crashed c)

/-- A session from the greeting on. What goes wrong with the history is told and does no harm. -/
def typeSession (p : Pipeline) (console : Console) : Terminal Unit := do
  print (Shell.greeting p)
  print ((console.history.load?.map Shell.historyNotice).getD "")
  typeLines p console.ending console.lines
  print ((console.history.save?.map Shell.savingNotice).getD "")

/-! ## Commands -/

/-- Runs a command on the pipeline of the data. -/
def Command.run (console : Console) (p : Pipeline) : Command → Terminal Unit
  | shell => typeSession p console
  | query q => q.run p
  | aggregate texts condition? params =>
    match Argument.fields .field texts with
    | .error e => throw (.failed e)
    | .ok fields =>
      let p := Query.step condition? (fun p c => p.filter c (params.map Argument.param)) p
      print ((entriesToJson (Dataset.aggregate p.current fields)).text .compact ++ "\n")
  | group column =>
    forM (Dataset.groupBy p.current column).groups fun g => print (Shell.groupLine g)
  | page number perPage =>
    print ((Dataset.page p.current number perPage).toJson.text .compact ++ "\n")

/-! ## The program -/

/-- The byte of a delimiter, if it has one. -/
def delimiterByte? (c : Char) : Option UInt8 :=
  if c.toNat < 256 then some (.ofNat c.toNat) else none

/-- The pipeline that a command starts from. -/
def Arguments.load (a : Arguments) : FileScript (Except Failure Pipeline) :=
  match delimiterByte? a.delimiter with
  | none => return .error .delimiter
  | some delimiter => do
    match ← Dataset.load a.data with
    | .error e => return .error (.load a.data e)
    | .ok rs =>
      let layout := if a.pretty then .indented else .compact
      return .ok (.ofDataset rs { Settings.standard with delimiter, layout })

/-- Loads the data and runs the command on it. -/
def Arguments.run (a : Arguments) (console : Console) : Terminal Unit := do
  let p ← .ofFiles id a.load
  a.command.run console p

/-- How the program ends, with what it has printed. -/
inductive Outcome where
  /-- The arguments do not fit. -/
  | rejected
  /-- The arguments ask about the program, and nothing is run. -/
  | informed
  | failed (e : Failure) (printed : Printed)
  | crashed (c : Crash) (printed : Printed)
  | succeeded (printed : Printed)

namespace Outcome

/-- The status that the program exits with. -/
def status : Outcome → Nat
  | succeeded _ => 0
  | failed _ _ => 1
  | crashed _ _ => 101
  | rejected => 2
  | informed => 0

def ofEnd : Except (Stop Failure) Unit × Printed → Outcome
  | (.ok (), printed) => succeeded printed
  | (.error (.failed e), printed) => failed e printed
  | (.error (.crashed c), printed) => crashed c printed

end Outcome

/-- Runs the program with its arguments. -/
def run (args : List String) (console : Console) : FileScript Outcome :=
  match parse? args with
  | none => return .rejected
  | some .inquiry => return .informed
  | some (.work a) => return .ofEnd (← (a.run console).script .nothing)

theorem runOn_run {Files : Type} [FileSystem Files] {args : List String} {a : Arguments}
    (hargs : parse? args = some (.work a)) (console : Console) (files : Files) :
    (run args console).runOn files =
      (.ofEnd ((a.run console).endsIn .nothing files).1, ((a.run console).endsIn .nothing files).2) := by
  rw [run, hargs]
  exact FileScript.runOn_bind ..

end RowQuery.CommandLine
