import RowQuery.Argument
import RowQuery.Dataset.Join
import RowQuery.Dataset.Sort
import RowQuery.Text.Lowercase
/-!
# Shell commands

A line typed into the shell is a command word, in any letter case, and its arguments.
Most arguments are words with white space between them; the rest of a `where` line is a
condition, with parameters behind the last vertical bar, and that of a `select` line a
list with commas.
-/

namespace RowQuery.Shell

inductive Command where
  | filter (condition : String) (params : List Value)
  | select (columns : List String)
  | sort (column : String) (direction : SortDirection)
  | limit (count offset : Nat)
  | join (path localKey operator foreignKey : String) (kind : JoinKind) (alias? : Option String)
  | group (column : String)
  | aggregate (fields : List (String × String))
  | page (page perPage : Nat)
  | exportCsv (path : String)
  | json
  | table
  | count
  | reset
  | help
  | exit
deriving DecidableEq

/-- The command words whose arguments can be wrong in number. -/
inductive Usage where
  | order
  | limit
  | join
  | group
  | aggregate
  | page
  | csv
deriving DecidableEq

def Usage.message : Usage → String
  | order => "Usage: order <column> [asc|desc]"
  | limit => "Usage: limit <count> [offset]"
  | join => "Usage: join <file> <local_key> = <foreign_key> [inner|left] [alias]"
  | group => "Usage: group <column>"
  | aggregate => "Usage: agg <column:FUNCTION>..."
  | page => "Usage: page <page> <per_page>"
  | csv => "Usage: csv <path>"

/-- Why a line is no command. -/
inductive ParseError where
  | usage (u : Usage)
  | count (e : Argument.CountError)
  | field (text : String)
  /-- The command word, in lower case. -/
  | unknown (word : String)
deriving DecidableEq

def ParseError.message : ParseError → String
  | usage u => u.message
  | count e => e.message
  | field text => Argument.fieldMessage text
  | unknown word => "Unknown command: " ++ word ++ ". Type 'help' for assistance."

namespace Command

/-- Reads a count. -/
def parseCount (text : String) : Except ParseError Nat :=
  (Argument.count text).mapError .count

/-- A condition, and parameters with commas between them behind the last bar. -/
def parseFilter (rest : List Char) : Command :=
  match Text.splitLast? '|' rest with
  | some (condition, params) =>
    filter (String.ofList (Text.trim condition)) ((Argument.commaList params).map .ofUntyped)
  | none => filter (String.ofList rest) []

def parseSort : List String → Except ParseError Command
  | [column] => .ok (sort column .ascending)
  | [column, direction] => .ok (sort column (.ofText direction))
  | _ => .error (.usage .order)

def parseLimit : List String → Except ParseError Command
  | [number] => return limit (← parseCount number) 0
  | [number, offset] => return limit (← parseCount number) (← parseCount offset)
  | _ => .error (.usage .limit)

def parseJoin : List String → Except ParseError Command
  | [path, localKey, operator, foreignKey] =>
    .ok (join path localKey operator foreignKey .inner none)
  | [path, localKey, operator, foreignKey, kind] =>
    .ok (join path localKey operator foreignKey (.ofText kind) none)
  | [path, localKey, operator, foreignKey, kind, name] =>
    .ok (join path localKey operator foreignKey (.ofText kind) (some name))
  | _ => .error (.usage .join)

def parseGroup : List String → Except ParseError Command
  | [column] => .ok (group column)
  | _ => .error (.usage .group)

def parseAggregate : List String → Except ParseError Command
  | [] => .error (.usage .aggregate)
  | fields => return aggregate (← Argument.fields .field fields)

def parsePage : List String → Except ParseError Command
  | [number, perPage] => return page (← parseCount number) (← parseCount perPage)
  | _ => .error (.usage .page)

def parseExport : List String → Except ParseError Command
  | [path] => .ok (exportCsv path)
  | _ => .error (.usage .csv)

/-- The command of a word in lower case, given the rest of the line. -/
def ofWord (word : String) (rest : List Char) : Except ParseError Command :=
  let args := (Text.words rest).map String.ofList
  match word with
  | "where" => .ok (parseFilter rest)
  | "select" => .ok (select (Argument.commaList rest))
  | "order" => parseSort args
  | "limit" => parseLimit args
  | "join" => parseJoin args
  | "group" => parseGroup args
  | "agg" => parseAggregate args
  | "page" => parsePage args
  | "csv" => parseExport args
  | "json" => .ok json
  | "show" => .ok table
  | "count" => .ok count
  | "reset" => .ok reset
  | "help" => .ok help
  | "exit" => .ok exit
  | "quit" => .ok exit
  | other => .error (.unknown other)

/-- The command of a line. -/
def parse (line : String) : Except ParseError Command :=
  let cs := Text.trim line.toList
  let word := cs.takeWhile fun c => !Text.isBlank c
  let rest := cs.dropWhile fun c => !Text.isBlank c
  ofWord (String.ofList (Text.lowercase word)) (Text.trim rest)

end Command

end RowQuery.Shell
