import RowQuery.Argument
import RowQuery.Job
import RowQuery.Loading
/-!
# Programs at the terminal

What a program does step by step: it reads and writes files, prints one text after another, and may
fail on its way. A failure takes nothing back that was printed.
-/

namespace RowQuery.CommandLine

/-- Why the program failed. -/
inductive Failure where
  | delimiter
  | load (path : String) (e : LoadError)
  | field (text : String)
  | localKeyMissing
  | foreignKeyMissing
  | write (path : String) (e : FileError)

def Failure.message : Failure → String
  | delimiter => "CSV delimiter must be a single-byte character"
  | load path _ => "Failed to load " ++ path
  | field text => Argument.fieldMessage text
  | localKeyMissing => "--join needs --local-key"
  | foreignKeyMissing => "--join needs --foreign-key"
  | write path _ => "Failed to write " ++ path

/-- What is printed to standard output and to standard error. -/
structure Printed where
  output : String
  errors : String
deriving DecidableEq

namespace Printed

def nothing : Printed := { output := "", errors := "" }

def ofOutput (output : String) : Printed := { output, errors := "" }

end Printed

/-- A job whose state is what it has printed. -/
abbrev Terminal := Job Failure Printed

namespace Terminal

/-- Prints to standard output. -/
def print (text : String) : Terminal Unit :=
  modify fun printed => { printed with output := printed.output ++ text }

/-- Prints to standard error. -/
def printError (text : String) : Terminal Unit :=
  modify fun printed => { printed with errors := printed.errors ++ text }

variable {Files : Type} [FileSystem Files]

@[simp] theorem endsIn_print (text : String) (printed : Printed) (files : Files) :
    (print text).endsIn printed files = ((.ok (), { printed with output := printed.output ++ text }), files) := rfl

end Terminal

end RowQuery.CommandLine
