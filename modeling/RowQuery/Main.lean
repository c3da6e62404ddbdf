import RowQuery.CommandLine.Outcome
/-!
# The program

Reads and writes real files for the scripts of the library, types its results to the
terminal and hands the lines of the shell on as they come.
-/

namespace RowQuery.Program

/-- The reason for which an operation on a real file failed. -/
def fileError : IO.Error → FileError
  | .noFileOrDirectory _ _ _ => .notFound
  | .inappropriateType _ code _ => if code = 21 then .isADirectory else .notADirectory
  | e@(.invalidArgument _ code _) => if code = 36 then .nameTooLong else .other (toString e)
  | e => .other (toString e)

/-- The result of an operation on a real file. -/
def attempt {α : Type} (operation : IO α) : IO (Except FileError α) := do
  try return .ok (← operation)
  catch e => return .error (fileError e)

/-- Runs a script on real files. -/
def perform {α : Type} : FileScript α → IO α
  | .done outcome => pure outcome
  | .read path next => do perform (next (← attempt (IO.FS.readBinFile path)))
  | .write path bytes next => do perform (next (← attempt (IO.FS.writeBinFile path bytes)))

/-- Says why the program failed. -/
def fail (e : CommandLine.Failure) : IO UInt32 := do
  IO.eprintln ("Error: " ++ e.message)
  return 1

/-- Says why the program crashed. -/
def crash (c : Crash) : IO UInt32 := do
  IO.eprintln c.message
  return 101

/-- Runs the lines of the shell as they are typed. -/
partial def shell (input : IO.FS.Stream) (p : Pipeline) : IO UInt32 := do
  if ← input.isTty then
    IO.print "> "
    (← IO.getStdout).flush
  match ← attempt input.getLine with
  | .error e =>
    IO.print (Shell.Ending.failure e.message).text
    return 0
  | .ok "" =>
    IO.print Shell.Ending.endOfInput.text
    return 0
  | .ok line =>
    let reply ← perform (Shell.runLine p line)
    IO.print reply.output
    match reply.next with
    | .goesOn => shell input reply.pipeline
    | .leaves => return 0
    | .crashes c => crash c

/-- Runs a command that nothing is typed to. What it printed is shown when it ends, however it
ends. -/
def batch (a : CommandLine.Arguments) : IO UInt32 := do
  let nothing : CommandLine.Console :=
    { lines := [], ending := .endOfInput, history := { load? := none, save? := none } }
  let (result, printed) ← perform ((a.run nothing).script .nothing)
  IO.print printed.output
  IO.eprint printed.errors
  match result with
  | .error (.failed e) => fail e
  | .error (.crashed c) => crash c
  | .ok () => return 0

/-- Runs the shell at the terminal. -/
def interactive (a : CommandLine.Arguments) : IO UInt32 := do
  match ← perform a.load with
  | .error e => fail e
  | .ok p =>
    IO.print (Shell.greeting p)
    shell (← IO.getStdin) p

/-- How the program is used, for those who ask. -/
def usage : String :=
  "Usage: --data FILE [--pretty] [--delimiter CHAR] [COMMAND]\n" ++
    "Commands: " ++ ", ".intercalate CommandLine.commandWords

end RowQuery.Program

open RowQuery in
def main (args : List String) : IO UInt32 :=
  match CommandLine.parse? args with
  | none => do
    IO.eprintln "error: the arguments do not fit"
    return 2
  | some .inquiry => do
    IO.println Program.usage
    return 0
  | some (.work a) =>
    match a.command with
    | .shell => Program.interactive a
    | _ => Program.batch a
