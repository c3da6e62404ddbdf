import RowQuery.Shell.Action
/-!
# Shell sessions

A session greets, runs the lines one after the other and takes its leave. A line of
white space does nothing, and a line that is no command or fails is answered with the
reason, after which the session goes on with the pipeline as the line left it.
-/

namespace RowQuery.Shell

/-- How the typed lines end, when no command ended the session before. -/
inductive Ending where
  | endOfInput
  | interrupt
  /-- Reading failed, for a reason given by its text. -/
  | failure (text : String)
deriving DecidableEq

/-- What goes wrong with the history of lines, by the texts of the errors. -/
structure HistoryErrors where
  load? : Option String
  save? : Option String

def greeting (p : Pipeline) : String :=
  "Loaded " ++ toString p.current.length ++
    " records. Type 'help' for assistance or 'exit' to quit.\n"

def Ending.text : Ending → String
  | endOfInput => "CTRL-D\n"
  | interrupt => "CTRL-C\n"
  | failure text => "Error: " ++ text ++ "\n"

/-- A text occurs in another. -/
def occursIn (part : List Char) : List Char → Bool
  | [] => part.isEmpty
  | c :: cs => part.isPrefixOf (c :: cs) || occursIn part cs

/-- Says that the history could not be loaded, unless there just is none. -/
def historyNotice (text : String) : String :=
  if occursIn "No such file or directory".toList text.toList then ""
  else "Error loading history: " ++ text ++ "\n"

/-- Says that the history could not be saved. -/
def savingNotice (text : String) : String := "Error saving history: " ++ text ++ "\n"

/-- An error as the session prints it. -/
def errorLine (message : String) : String := "Error: " ++ message ++ "\n"

/-- What comes behind a line. -/
inductive Next where
  | goesOn
  | leaves
  | crashes (c : Crash)
deriving DecidableEq

/-- What came of a line: the pipeline that it left, what was printed and what comes next. -/
structure Reply where
  pipeline : Pipeline
  output : String
  next : Next

/-- The shell goes on. -/
def Reply.goesOn (reply : Reply) : Bool := reply.next = .goesOn

/-- What a session makes of a line, from how it ended and the state it ended in. -/
def answered : Except (Stop LineError) Bool → State → Reply
  | .ok true, s => ⟨s.pipeline, s.output, .goesOn⟩
  | .ok false, s => ⟨s.pipeline, s.output ++ "Goodbye!\n", .leaves⟩
  | .error (.failed e), s => ⟨s.pipeline, s.output ++ errorLine e.message, .goesOn⟩
  | .error (.crashed c), s => ⟨s.pipeline, s.output, .crashes c⟩

/-- Runs one typed line on the pipeline of the session. -/
def runLine (p : Pipeline) (line : String) : FileScript Reply :=
  if Text.trim line.toList = [] then return ⟨p, "", .goesOn⟩
  else do
    let (result, state) ← (carryOut line).script ⟨p, ""⟩
    return answered result state

end RowQuery.Shell
