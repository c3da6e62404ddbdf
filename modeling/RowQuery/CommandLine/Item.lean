/-!
# Items of a command line

The arguments of a command are options, flags and operands. An option takes its value
behind an equals sign, for a short name also right behind it, or from the next argument,
which must not look like an option itself. Behind a bare `--` there are operands only.

A flag can also be an inquiry, such as one for help. Reading ends there, so what stands
behind an inquiry does not matter.

Trusted: the program has a library read its arguments, and this module stands for it. Which
arguments are options, where they take their values from, and that an option or a flag can be given
once only are taken from the library and are not proved of it. Which options there are, what their
values have to be and what is assumed in place of those that are missing is the work of the program
(`CommandLine.Arguments`). What the library prints, about the program or about arguments that do not
fit, is left out.
-/

namespace RowQuery.CommandLine

/-- What an option or a flag is for. -/
inductive Role where
  | flag
  | value
  /-- Asks about the program instead of running it. -/
  | inquiry
deriving DecidableEq

/-- An option or a flag that a command knows, by its long name without the dashes. -/
structure Spec where
  name : String
  short? : Option Char
  role : Role

inductive Item where
  | flag (name : String)
  /-- An option with its value, which is attached or is an argument of its own. -/
  | option (name value : String) (attached : Bool)
  | operand (text : String)
deriving DecidableEq

/-- Where the reading of items ends. -/
inductive Ending where
  | exhausted
  | inquiry
  /-- A stop word, with the arguments behind it. -/
  | word (word : String) (rest : List String)
deriving DecidableEq

/-- A text that is read as an option and never as a value: a dash with more behind it. -/
def looksLikeOption (text : String) : Bool :=
  match text.toList with
  | '-' :: _ :: _ => true
  | _ => false

/-- The name behind two dashes, and what stands behind an equals sign. -/
def splitLong (cs : List Char) : String × Option String :=
  let name := String.ofList (cs.takeWhile (· ≠ '='))
  match cs.dropWhile (· ≠ '=') with
  | [] => (name, none)
  | _ :: value => (name, some (String.ofList value))

/-- The value attached to a short name, with an equals sign or without. -/
def attachedValue? : List Char → Option String
  | [] => none
  | '=' :: value => some (String.ofList value)
  | value => some (String.ofList value)

/-- The option or flag that an argument names, with the value attached to it. What is
written behind the short name of an inquiry is not read. -/
def named? (specs : List Spec) (arg : String) : Option (Spec × Option String) :=
  match arg.toList with
  | '-' :: '-' :: cs =>
    let (name, value?) := splitLong cs
    (specs.find? (·.name == name)).map fun spec => (spec, value?)
  | '-' :: c :: cs =>
    (specs.find? (·.short? == some c)).map fun spec =>
      (spec, if spec.role = .inquiry then none else attachedValue? cs)
  | _ => none

/-- An item in front of what was read behind it. -/
def consItem (item : Item) (read : Option (List Item × Ending)) : Option (List Item × Ending) :=
  read.map fun (items, ending) => (item :: items, ending)

/-- Reads items up to an inquiry or the first of the stop words. `literal` says that a
bare `--` has been read. -/
def items? (specs : List Spec) (stops : List String) (literal : Bool) :
    List String → Option (List Item × Ending)
  | [] => some ([], .exhausted)
  | arg :: args =>
    if literal then consItem (.operand arg) (items? specs stops true args)
    else if stops.contains arg then some ([], .word arg args)
    else if arg = "--" then items? specs stops true args
    else if looksLikeOption arg then
      match named? specs arg with
      | none => none
      | some (spec, attached?) =>
        match spec.role, attached? with
        | .inquiry, none => some ([], .inquiry)
        | .flag, none => consItem (.flag spec.name) (items? specs stops false args)
        | .inquiry, some _ => none
        | .flag, some _ => none
        | .value, some value =>
          consItem (.option spec.name value true) (items? specs stops false args)
        | .value, none =>
          match args with
          | [] => none
          | value :: args =>
            if looksLikeOption value then none
            else consItem (.option spec.name value false) (items? specs stops false args)
    else consItem (.operand arg) (items? specs stops false args)

/-- The items without a last option whose value is not attached to it. -/
def settled (items : List Item) : List Item :=
  match items.getLast? with
  | some (.option _ _ false) => items.dropLast
  | _ => items

/-! ## Looking items up -/

/-- The operands, in order. -/
def operands (items : List Item) : List String :=
  items.filterMap fun
    | .operand text => some text
    | _ => none

/-- All values of an option, in order. -/
def values (items : List Item) (name : String) : List String :=
  items.filterMap fun
    | .option n value _ => if n = name then some value else none
    | _ => none

/-- The value of an option that is given once at most: `none` if it is given more often. -/
def single? (items : List Item) (name : String) : Option (Option String) :=
  match values items name with
  | [] => some none
  | [value] => some (some value)
  | _ => none

/-- Whether a flag is given, which can be once at most: `none` if it is given more often. -/
def flag? (items : List Item) (name : String) : Option Bool :=
  match items.count (.flag name) with
  | 0 => some false
  | 1 => some true
  | _ => none

end RowQuery.CommandLine
