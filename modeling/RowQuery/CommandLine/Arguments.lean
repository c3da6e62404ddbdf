import RowQuery.Argument
import RowQuery.CommandLine.Item
/-!
# Arguments of the program

What the command line asks for: the data file, how to write results, and a command with
its own options. Options of the program stand before the command and those of a command
behind it. Arguments that do not fit are rejected as a whole.

An inquiry is answered in place of all else if the arguments in front of it fit as far as
they go: nothing is missing there yet.
-/

namespace RowQuery.CommandLine

/-- The steps of a query and where its result goes. -/
structure Query where
  select? : Option String
  condition? : Option String
  params : List String
  join? : Option String
  localKey? : Option String
  foreignKey? : Option String
  joinKind : String
  alias? : Option String
  orderBy? : Option String
  descending : Bool
  limit? : Option Nat
  offset : Nat
  csv? : Option String
deriving DecidableEq

inductive Command where
  | shell
  | query (q : Query)
  | aggregate (fields : List String) (condition? : Option String) (params : List String)
  | group (column : String)
  | page (page perPage : Nat)
deriving DecidableEq

structure Arguments where
  data : String
  pretty : Bool
  delimiter : Char
  command : Command
deriving DecidableEq

/-- What is asked for: to be told about the program, or work that is given. -/
inductive Request (α : Type) where
  | inquiry
  | work (given : α)
deriving DecidableEq

/-- The request of arguments that fit as far as they go, with the work they give if nothing
is missing. -/
def Ending.request? {α : Type} (ending : Ending) (given? : Option α) : Option (Request α) :=
  if ending = .inquiry then some .inquiry else given?.map .work

/-! ## Values of options -/

/-- A path, which is not empty. -/
def path? (text : String) : Option String := if text = "" then none else some text

def count? (text : String) : Option Nat := (Argument.count text).toOption

def char? (text : String) : Option Char :=
  match text.toList with
  | [c] => some c
  | _ => none

/-- Reads the value of an option if there is one. -/
def convert? {α : Type} (read? : String → Option α) : Option String → Option (Option α)
  | none => some none
  | some text => (read? text).map some

/-! ## Commands -/

def option (name : String) : Spec := { name, short? := none, role := .value }

def flag (name : String) : Spec := { name, short? := none, role := .flag }

/-- The inquiry that the program and every command know. -/
def helpSpec : Spec := { name := "help", short? := some 'h', role := .inquiry }

def querySpecs : List Spec :=
  [option "select", option "where", option "param", option "join", option "local-key",
    option "foreign-key", option "join-type", option "alias", option "order-by", flag "desc",
    option "limit", option "offset", option "csv"]

/-- Reads the options of a query. -/
def query? (items : List Item) : Option Query :=
  return {
    select? := ← single? items "select"
    condition? := ← single? items "where"
    params := values items "param"
    join? := ← convert? path? (← single? items "join")
    localKey? := ← single? items "local-key"
    foreignKey? := ← single? items "foreign-key"
    joinKind := (← single? items "join-type").getD "inner"
    alias? := ← single? items "alias"
    orderBy? := ← single? items "order-by"
    descending := ← flag? items "desc"
    limit? := ← convert? count? (← single? items "limit")
    offset := (← convert? count? (← single? items "offset")).getD 0
    csv? := ← convert? path? (← single? items "csv") }

/-- The keys of a join need a join. -/
def Query.isComplete (q : Query) : Bool :=
  q.join?.isSome || (q.localKey?.isNone && q.foreignKey?.isNone)

def aggregateSpecs : List Spec := [option "field", option "where", option "param"]

/-- The words that name commands. -/
def commandWords : List String := ["shell", "query", "aggregate", "group", "page"]

/-- Reads the command that a word names from the arguments behind it. -/
def command? (word : String) (args : List String) : Option (Request Command) := do
  let specs :=
    match word with
    | "query" => querySpecs
    | "aggregate" => aggregateSpecs
    | _ => []
  let (items, ending) ← items? (helpSpec :: specs) [] false args
  match word, operands items with
  | "shell", [] => ending.request? (some .shell)
  | "query", [] =>
    let q ← query? items
    ending.request? (if q.isComplete then some (.query q) else none)
  | "aggregate", [] =>
    let fields := values items "field"
    let condition? ← single? items "where"
    ending.request?
      (if fields = [] then none else some (.aggregate fields condition? (values items "param")))
  | "group", [] => ending.request? none
  | "group", [column] => ending.request? (some (.group column))
  | "page", [] => ending.request? none
  | "page", [number] =>
    let _ ← count? number
    ending.request? none
  | "page", [number, perPage] =>
    let number ← count? number
    let perPage ← count? perPage
    ending.request? (some (.page number perPage))
  | _, _ => none

/-! ## The whole line -/

/-- The word that asks about the program, or about the command that is named behind it. -/
def helpWord : String := "help"

/-- Whether there is something to be told about what is named behind the word for help. -/
def isHelpTopic : List String → Bool
  | [] => true
  | [word] => word == helpWord || commandWords.contains word
  | _ => false

def programSpecs : List Spec :=
  [{ name := "data", short? := some 'd', role := .value }, flag "pretty", option "delimiter",
    helpSpec, { name := "version", short? := some 'V', role := .inquiry }]

/-- The options of the program, before a command is known. -/
structure ProgramOptions where
  data? : Option String
  pretty : Bool
  delimiter : Char

/-- Reads the options of the program, which takes no operands. -/
def programOptions? (items : List Item) : Option ProgramOptions :=
  if operands items ≠ [] then none
  else return {
    data? := ← convert? path? (← single? items "data")
    pretty := ← flag? items "pretty"
    delimiter := (← convert? char? (← single? items "delimiter")).getD ',' }

/-- The arguments for a command. The data file is needed. -/
def ProgramOptions.arguments? (o : ProgramOptions) (command : Command) : Option Arguments :=
  o.data?.map fun data => { data, pretty := o.pretty, delimiter := o.delimiter, command }

/-- Reads the arguments of the program. Without a command the shell is started. A value
that stands right in front of a command, not attached to its option, is looked at last, so
an inquiry about the command is answered whatever it is. -/
def parse? (args : List String) : Option (Request Arguments) := do
  let (items, ending) ← items? programSpecs (helpWord :: commandWords) false args
  match ending with
  | .word word rest =>
    let _ ← programOptions? (settled items)
    if word = helpWord then if isHelpTopic rest then some .inquiry else none
    else
      match ← command? word rest with
      | .inquiry => some .inquiry
      | .work command => ((← programOptions? items).arguments? command).map .work
  | ending =>
    let o ← programOptions? items
    ending.request? (o.arguments? .shell)

end RowQuery.CommandLine
