import RowQuery.CommandLine.Outcome
import RowQuery.Proofs.Arguments
import RowQuery.Proofs.Bars
import RowQuery.Proofs.Files
import RowQuery.Proofs.Sessions
/-!
# The two front ends agree

The steps of a query can be given as options of the command line or typed into the shell, a line
for each step. Both are read as the same steps on the same pipeline (`query?_items`,
`leads_lines`), so the query prints what the shell prints for `json` behind the lines.
-/

namespace RowQuery

/-! ## The steps of a query -/

/-- Text that is a single word. -/
structure Word where
  text : String
  isWord : Text.IsWord text.toList

theorem Word.ne_empty (w : Word) : w.text ≠ "" := by
  intro h
  have hword := w.isWord
  rw [h] at hword
  exact hword.ne_nil rfl

structure JoinStep where
  path : Word
  localKey : Word
  foreignKey : Word
  kind : Word
  alias? : Option Word

/-- A condition without white space around it, with parameters that a line can hold. Without
parameters a bar in the condition would be taken for the one in front of them. -/
structure FilterStep where
  condition : String
  params : List String
  trimmed : Text.trim condition.toList = condition.toList
  plain : ∀ param ∈ params, ',' ∉ param.toList ∧ '|' ∉ param.toList
  bar_free : params = [] → '|' ∉ condition.toList

structure SortStep where
  column : Word
  direction : SortDirection

structure LimitStep where
  count : Nat
  offset : Nat
  count_lt : count < 2 ^ 64
  offset_lt : offset < 2 ^ 64

/-- The steps of a query, each of which may be left out. -/
structure Steps where
  join? : Option JoinStep
  filter? : Option FilterStep
  sort? : Option SortStep
  limit? : Option LimitStep
  select? : Option String

/-! ## Steps as options -/

section
open CommandLine (Item)

def JoinStep.items (j : JoinStep) : List Item :=
  [.option "join" j.path.text true, .option "local-key" j.localKey.text true,
    .option "foreign-key" j.foreignKey.text true, .option "join-type" j.kind.text true] ++
    j.alias?.elim [] fun name => [.option "alias" name.text true]

def FilterStep.items (f : FilterStep) : List Item :=
  .option "where" f.condition true :: f.params.map fun param => .option "param" param true

def SortStep.items (s : SortStep) : List Item :=
  .option "order-by" s.column.text true :: if s.direction = .descending then [.flag "desc"] else []

def LimitStep.items (l : LimitStep) : List Item :=
  [.option "limit" (toString l.count) true, .option "offset" (toString l.offset) true]

def selectItems (columns : String) : List Item := [.option "select" columns true]

def Steps.items (s : Steps) : List Item :=
  s.join?.elim [] JoinStep.items ++ s.filter?.elim [] FilterStep.items ++ s.sort?.elim [] SortStep.items ++
    s.limit?.elim [] LimitStep.items ++ s.select?.elim [] selectItems

end

/-- The query that asks for the steps. -/
def Steps.query (s : Steps) : CommandLine.Query where
  select? := s.select?
  condition? := s.filter?.map (·.condition)
  params := s.filter?.elim [] (·.params)
  join? := s.join?.map (·.path.text)
  localKey? := s.join?.map (·.localKey.text)
  foreignKey? := s.join?.map (·.foreignKey.text)
  joinKind := (s.join?.map (·.kind.text)).getD "inner"
  alias? := s.join?.bind fun j => j.alias?.map (·.text)
  orderBy? := s.sort?.map (·.column.text)
  descending := s.sort?.any fun sort => sort.direction = .descending
  limit? := s.limit?.map (·.count)
  offset := (s.limit?.map (·.offset)).getD 0
  csv? := none

/-! ## Steps as lines -/

namespace Shell

/-- A command word with words behind it. -/
def wordLine (command : String) (args : List String) : String := " ".intercalate (command :: args)

def selectLine (columns : String) : String := "select " ++ columns

end Shell

def SortDirection.word : SortDirection → String
  | ascending => "asc"
  | descending => "desc"

section
open Shell

def JoinStep.line (j : JoinStep) : String :=
  wordLine "join" ([j.path.text, j.localKey.text, "=", j.foreignKey.text, j.kind.text] ++
    j.alias?.elim [] fun name => [name.text])

def FilterStep.line (f : FilterStep) : String :=
  if f.params = [] then whereLine f.condition
  else whereLine (f.condition ++ " | " ++ ", ".intercalate f.params)

def SortStep.line (s : SortStep) : String := wordLine "order" [s.column.text, s.direction.word]

def LimitStep.line (l : LimitStep) : String := wordLine "limit" [toString l.count, toString l.offset]

def Steps.lines (s : Steps) : List String :=
  (s.join?.map JoinStep.line).toList ++ (s.filter?.map FilterStep.line).toList ++
    (s.sort?.map SortStep.line).toList ++ (s.limit?.map LimitStep.line).toList ++
    (s.select?.map selectLine).toList

end

/-! ## Reading the options -/

section
variable {α β : Type}

/-- What an option without a value adds to a list, and what one with a value adds. -/
theorem elim_nil (x? : Option α) : (x?.elim [] fun _ => ([] : List β)) = [] := by
  cases x? <;> rfl

theorem elim_singleton (x? : Option α) (f : α → β) : (x?.elim [] fun x => [f x]) = (x?.map f).toList := by
  cases x? <;> rfl

theorem elim_toList (x? : Option α) (f : α → Option β) :
    (x?.elim [] fun x => (f x).toList) = (x?.bind f).toList := by
  cases x? <;> rfl

theorem mem_elim {x? : Option α} {f : α → List β} {y : β} : y ∈ x?.elim [] f ↔ ∃ x, x? = some x ∧ y ∈ f x := by
  cases x? <;> simp

theorem elim_ite (p : Prop) [Decidable p] (x? : Option α) (f : α → List β) :
    (x?.elim [] fun x => if p then f x else []) = if p then x?.elim [] f else [] := by
  cases x? <;> simp

end

namespace CommandLine

variable (name : String)

theorem values_elim {α : Type} (x? : Option α) (f : α → List Item) :
    values (x?.elim [] f) name = x?.elim [] fun x => values (f x) name := by
  cases x? <;> rfl

theorem values_join (j : JoinStep) : values j.items name =
    (if "join" = name then [j.path.text] else []) ++ ((if "local-key" = name then [j.localKey.text] else []) ++
      ((if "foreign-key" = name then [j.foreignKey.text] else []) ++
        ((if "join-type" = name then [j.kind.text] else []) ++
          if "alias" = name then (j.alias?.map (·.text)).toList else []))) := by
  have halias : values (j.alias?.elim [] fun a => [.option "alias" a.text true]) name =
      if "alias" = name then (j.alias?.map (·.text)).toList else [] := by
    rw [values_elim, ← elim_singleton, ← elim_ite]
    congr 1
    funext a
    exact (values_option_cons ..).trans (List.append_nil _)
  rw [JoinStep.items, values_append, halias]
  simp only [values_option_cons, List.append_assoc]
  rfl

theorem values_filter (f : FilterStep) : values f.items name =
    (if "where" = name then [f.condition] else []) ++ if "param" = name then f.params else [] := by
  have hparams : ∀ params : List String, values (params.map fun param => .option "param" param true) name =
      if "param" = name then params else [] := by
    intro params
    induction params with
    | nil => split <;> rfl
    | cons param params ih =>
      rw [List.map_cons, values_option_cons, ih]
      split <;> rfl
  rw [FilterStep.items, values_option_cons, hparams]

theorem values_sort (s : SortStep) : values s.items name = if "order-by" = name then [s.column.text] else [] := by
  have hflag : values (if s.direction = .descending then [.flag "desc"] else []) name = [] := by
    split <;> rfl
  rw [SortStep.items, values_option_cons, hflag, List.append_nil]

theorem values_limit (l : LimitStep) : values l.items name =
    (if "limit" = name then [toString l.count] else []) ++ if "offset" = name then [toString l.offset] else [] := by
  rw [LimitStep.items, values_option_cons, values_option_cons, values, List.filterMap_nil, List.append_nil]

theorem values_select (columns : String) :
    values (selectItems columns) name = if "select" = name then [columns] else [] := by
  rw [selectItems, values_option_cons, values, List.filterMap_nil, List.append_nil]

theorem count?_toString {n : Nat} (h : n < 2 ^ 64) : count? (toString n) = some n := by
  rw [count?, Argument.count_toString h]
  rfl

end CommandLine

namespace Steps

open CommandLine

/-- The values of the options of all steps. Each name belongs to one step. -/
theorem values_items (s : Steps) (name : String) : values s.items name =
    s.join?.elim [] (fun j => values j.items name) ++ s.filter?.elim [] (fun f => values f.items name) ++
      s.sort?.elim [] (fun sort => values sort.items name) ++ s.limit?.elim [] (fun l => values l.items name) ++
      s.select?.elim [] (fun columns => values (selectItems columns) name) := by
  rw [items, values_append, values_append, values_append, values_append, values_elim, values_elim,
    values_elim, values_elim, values_elim]

/-- An item of the steps is an option, or the flag of a sort in descending order. -/
theorem mem_items {s : Steps} {item : Item} (h : item ∈ s.items) :
    (∃ name value, item = .option name value true ∧ Known (helpSpec :: querySpecs) name .value) ∨
      item = .flag "desc" := by
  have hknown : ∀ {name : String}, name ∈ ["join", "local-key", "foreign-key", "join-type", "alias", "where",
      "param", "order-by", "limit", "offset", "select"] → Known (helpSpec :: querySpecs) name .value := by
    intro name hname
    exact (by decide : ∀ name ∈ _, Known (helpSpec :: querySpecs) name .value) name hname
  simp only [items, List.mem_append, mem_elim] at h
  rcases h with (((⟨j, -, h⟩ | ⟨f, -, h⟩) | ⟨sort, -, h⟩) | ⟨l, -, h⟩) | ⟨columns, -, h⟩
  · simp only [JoinStep.items, List.mem_append, List.mem_cons, List.not_mem_nil, or_false, mem_elim] at h
    rcases h with (rfl | rfl | rfl | rfl) | ⟨name, -, rfl⟩ <;> exact .inl ⟨_, _, rfl, hknown (by decide)⟩
  · rcases List.mem_cons.1 h with rfl | h
    · exact .inl ⟨_, _, rfl, hknown (by decide)⟩
    · obtain ⟨param, -, rfl⟩ := List.mem_map.1 h
      exact .inl ⟨_, _, rfl, hknown (by decide)⟩
  · rcases List.mem_cons.1 h with rfl | h
    · exact .inl ⟨_, _, rfl, hknown (by decide)⟩
    · split at h
      · exact .inr (List.mem_singleton.1 h)
      · cases h
  · simp only [LimitStep.items, List.mem_cons, List.not_mem_nil, or_false] at h
    rcases h with rfl | rfl <;> exact .inl ⟨_, _, rfl, hknown (by decide)⟩
  · obtain rfl := List.mem_singleton.1 h
    exact .inl ⟨_, _, rfl, hknown (by decide)⟩

theorem fits_items (s : Steps) : ∀ item ∈ s.items, item.Fits (helpSpec :: querySpecs) := by
  intro item hitem
  rcases mem_items hitem with ⟨name, value, rfl, hknown⟩ | rfl
  · exact ⟨rfl, hknown⟩
  · exact (by decide : Known (helpSpec :: querySpecs) "desc" .flag)

/-- Only a sort has a flag. -/
theorem flag?_items (s : Steps) : flag? s.items "desc" = some s.query.descending := by
  have hcount : s.items.count (.flag "desc") = if s.query.descending then 1 else 0 := by
    have hjoin : (s.join?.elim [] JoinStep.items).count (.flag "desc") = 0 :=
      List.count_eq_zero.2 fun h => by simp [mem_elim, JoinStep.items] at h
    have hfilter : (s.filter?.elim [] FilterStep.items).count (.flag "desc") = 0 :=
      List.count_eq_zero.2 fun h => by simp [mem_elim, FilterStep.items] at h
    have hlimit : (s.limit?.elim [] LimitStep.items).count (.flag "desc") = 0 :=
      List.count_eq_zero.2 fun h => by simp [mem_elim, LimitStep.items] at h
    have hselect : (s.select?.elim [] selectItems).count (.flag "desc") = 0 :=
      List.count_eq_zero.2 fun h => by simp [mem_elim, selectItems] at h
    rw [items, List.count_append, List.count_append, List.count_append, List.count_append, hjoin, hfilter,
      hlimit, hselect, query]
    cases s.sort? with
    | none => rfl
    | some sort => cases hdirection : sort.direction <;> simp [SortStep.items, hdirection]
  rw [flag?, hcount]
  cases s.query.descending <;> rfl

/-- The options of the steps are read as the query that asks for them. -/
theorem query?_items (s : Steps) : query? s.items = some s.query := by
  have hsingle : ∀ {name : String} {value? : Option String},
      values s.items name = value?.toList → single? s.items name = some value? := single?_of_values
  have hparams : values s.items "param" = s.query.params := by
    simp [values_items, values_join, values_filter, values_sort, values_limit, values_select, elim_nil, query]
  simp only [values_items, values_join, values_filter, values_sort, values_limit, values_select] at hsingle
  have hselect : single? s.items "select" = some s.select? :=
    hsingle (by simp [elim_nil, elim_singleton])
  have hwhere : single? s.items "where" = some s.query.condition? :=
    hsingle (by simp [elim_nil, elim_singleton, query])
  have hjoin : single? s.items "join" = some (s.join?.map (·.path.text)) :=
    hsingle (by simp [elim_nil, elim_singleton])
  have hlocal : single? s.items "local-key" = some s.query.localKey? :=
    hsingle (by simp [elim_nil, elim_singleton, query])
  have hforeign : single? s.items "foreign-key" = some s.query.foreignKey? :=
    hsingle (by simp [elim_nil, elim_singleton, query])
  have hkind : single? s.items "join-type" = some (s.join?.map (·.kind.text)) :=
    hsingle (by simp [elim_nil, elim_singleton])
  have halias : single? s.items "alias" = some s.query.alias? :=
    hsingle (by simp [elim_nil, elim_toList, query])
  have horder : single? s.items "order-by" = some s.query.orderBy? :=
    hsingle (by simp [elim_nil, elim_singleton, query])
  have hlimit : single? s.items "limit" = some (s.limit?.map fun l => toString l.count) :=
    hsingle (by simp [elim_nil, elim_singleton])
  have hoffset : single? s.items "offset" = some (s.limit?.map fun l => toString l.offset) :=
    hsingle (by simp [elim_nil, elim_singleton])
  have hcsv : single? s.items "csv" = some none :=
    hsingle (by simp [elim_nil])
  have hpath : convert? path? (s.join?.map (·.path.text)) = some s.query.join? :=
    convert?_map (fun j => path?_of_ne j.path.ne_empty) s.join?
  have hcount : convert? count? (s.limit?.map fun l => toString l.count) = some s.query.limit? :=
    convert?_map (fun l => count?_toString l.count_lt) s.limit?
  have hskip : convert? count? (s.limit?.map fun l => toString l.offset) = some (s.limit?.map (·.offset)) :=
    convert?_map (fun l => count?_toString l.offset_lt) s.limit?
  have hnone : convert? path? none = some none := rfl
  simp only [query?, hselect, hwhere, hparams, hjoin, hlocal, hforeign, hkind, halias, horder, s.flag?_items,
    hlimit, hoffset, hcsv, Option.bind_eq_bind, Option.bind_some, hpath, hcount, hskip, hnone]
  rfl

theorem isComplete_query (s : Steps) : s.query.isComplete = true := by
  unfold Query.isComplete query
  cases s.join? <;> rfl

theorem command?_items (s : Steps) :
    command? "query" (s.items.map Item.spelled) = some (.work (.query s.query)) := by
  have hread := items?_spelled (by simp : ∀ stop ∈ [], looksLikeOption stop = false) s.fits_items []
  rw [List.append_nil] at hread
  simp [command?, hread, items?, operands_of_fits s.fits_items, s.query?_items, s.isComplete_query,
    Ending.request?]

end Steps

namespace CommandLine

/-- The options that name a data file and say how to write results. -/
def programItems (data : String) (pretty : Bool) : List Item :=
  .option "data" data true :: if pretty then [.flag "pretty"] else []

theorem fits_programItems (data : String) (pretty : Bool) :
    ∀ item ∈ programItems data pretty, item.Fits programSpecs := by
  intro item hitem
  rcases List.mem_cons.1 hitem with rfl | hitem
  · exact ⟨rfl, by decide⟩
  · cases pretty with
    | false => cases hitem
    | true =>
      obtain rfl := List.mem_singleton.1 hitem
      exact (by decide : Known programSpecs "pretty" .flag)

theorem programOptions?_items {data : String} (hdata : data ≠ "") (pretty : Bool) :
    programOptions? (programItems data pretty) = some { data? := some data, pretty, delimiter := ',' } := by
  cases pretty <;>
    simp [programOptions?, programItems, operands, single?, values, flag?, convert?, path?_of_ne hdata]

end CommandLine

namespace Steps

open CommandLine

/-- The arguments that ask for the steps on a data file. -/
def arguments (s : Steps) (data : String) (pretty : Bool) : List String :=
  (programItems data pretty).map Item.spelled ++ "query" :: s.items.map Item.spelled

/-- The arguments are read as the query on the data file. -/
theorem parse?_arguments (s : Steps) {data : String} (hdata : data ≠ "") (pretty : Bool) :
    parse? (s.arguments data pretty) =
      some (.work { data, pretty, delimiter := ',', command := .query s.query }) := by
  have hstops : ∀ stop ∈ helpWord :: commandWords, looksLikeOption stop = false := by decide
  have hword : items? programSpecs (helpWord :: commandWords) false ("query" :: s.items.map Item.spelled) =
      some ([], .word "query" (s.items.map Item.spelled)) := rfl
  have hread := items?_spelled hstops (fits_programItems data pretty) ("query" :: s.items.map Item.spelled)
  rw [hword, Option.map_some, List.append_nil] at hread
  have hhelp : ¬"query" = helpWord := by decide
  rw [parse?, arguments, hread]
  simp [settled_of_fits (fits_programItems data pretty), programOptions?_items hdata, hhelp, s.command?_items,
    ProgramOptions.arguments?]

end Steps

/-! ## Reading the lines -/

namespace Shell

theorem toList_wordLine (command : String) (args : List String) :
    (wordLine command args).toList = command.toList ++ (args.map String.toList).flatMap (' ' :: ·) := by
  rw [wordLine, String.toList_intercalate, List.map_cons]
  generalize command.toList = word, args.map String.toList = words
  induction words generalizing word with
  | nil => simp [List.intercalate]
  | cons next words ih =>
    have hjoin : " ".toList.intercalate (word :: next :: words) =
        word ++ ' ' :: " ".toList.intercalate (next :: words) := by simp [List.intercalate]
    rw [hjoin, ih, List.flatMap_cons, List.cons_append]

/-- A line of words is its command word with the words behind it as arguments. -/
theorem parse_wordLine {command : String} (hcommand : IsCommandWord command) {args : List String}
    (hne : args ≠ []) (hargs : ∀ arg ∈ args, Text.IsWord arg.toList) :
    ∃ rest, Command.parse (wordLine command args) = Command.ofWord command rest ∧
      (Text.words rest).map String.ofList = args := by
  obtain ⟨first, more, rfl⟩ := List.exists_cons_of_ne_nil hne
  have hwords : ∀ text ∈ (first :: more).map String.toList, Text.IsWord text := by
    intro text htext
    obtain ⟨arg, harg, rfl⟩ := List.mem_map.1 htext
    exact hargs arg harg
  have hline := toList_wordLine command (first :: more)
  have hsplit := Text.words_flatMap hwords
  rw [List.map_cons, List.flatMap_cons, List.cons_append] at hline hsplit
  refine ⟨_, Command.parse_line hcommand hline, ?_⟩
  have hspace := Text.words_blank_append Text.isBlank_of_mem_space
    (first.toList ++ (more.map String.toList).flatMap (' ' :: ·))
  rw [Text.words_trim, ← hspace]
  refine (congrArg (List.map String.ofList) hsplit).trans ?_
  rw [List.map_cons, List.map_map, String.ofList_toList]
  simp

end Shell

section
open Shell

theorem SortDirection.ofText_word (direction : SortDirection) : ofText direction.word = direction := by
  cases direction <;> decide

theorem JoinStep.parse_line (j : JoinStep) : Command.parse j.line =
    .ok (.join j.path.text j.localKey.text "=" j.foreignKey.text (.ofText j.kind.text) (j.alias?.map (·.text))) := by
  have hjoin : IsCommandWord "join" := by decide +kernel
  have hequals : Text.IsWord "=".toList := ⟨by decide, by simp; decide⟩
  have hwords : ∀ arg ∈ [j.path.text, j.localKey.text, "=", j.foreignKey.text, j.kind.text] ++
      j.alias?.elim [] fun name => [name.text], Text.IsWord arg.toList := by
    intro arg harg
    simp only [List.mem_append, List.mem_cons, List.not_mem_nil, or_false, mem_elim] at harg
    rcases harg with (rfl | rfl | rfl | rfl | rfl) | ⟨name, -, rfl⟩
    exacts [j.path.isWord, j.localKey.isWord, hequals, j.foreignKey.isWord, j.kind.isWord, name.isWord]
  obtain ⟨rest, hparse, hargs⟩ := parse_wordLine hjoin (by simp) hwords
  rw [line, hparse, Command.ofWord]
  simp only [hargs]
  cases j.alias? <;> rfl

theorem SortStep.parse_line (s : SortStep) : Command.parse s.line = .ok (.sort s.column.text s.direction) := by
  have horder : IsCommandWord "order" := by decide +kernel
  have hdirection : Text.IsWord s.direction.word.toList := by
    cases s.direction <;> exact .of_isAlpha (by decide) (by decide)
  have hwords : ∀ arg ∈ [s.column.text, s.direction.word], Text.IsWord arg.toList := by
    simp [s.column.isWord, hdirection]
  obtain ⟨rest, hparse, hargs⟩ := parse_wordLine horder (by simp) hwords
  rw [line, hparse, Command.ofWord]
  simp only [hargs, Command.parseSort, SortDirection.ofText_word]

theorem Text.isWord_toString (n : Nat) : IsWord (toString n).toList := by
  have htext : (toString n).toList = Nat.toDigits 10 n := Nat.toList_repr
  rw [htext]
  exact ⟨Nat.toDigits_ne_nil, fun c hc => isBlank_of_isDigit (Numeral.isDigit_of_mem_digitsOf c hc)⟩

theorem LimitStep.parse_line (l : LimitStep) : Command.parse l.line = .ok (.limit l.count l.offset) := by
  have hlimit : IsCommandWord "limit" := by decide +kernel
  have hwords : ∀ arg ∈ [toString l.count, toString l.offset], Text.IsWord arg.toList := by
    simp only [List.forall_mem_cons]
    exact ⟨Text.isWord_toString _, Text.isWord_toString _, by simp⟩
  have hcount : ∀ {n : Nat}, n < 2 ^ 64 → Command.parseCount (toString n) = .ok n := by
    intro n h
    rw [Command.parseCount, Argument.count_toString h]
    rfl
  obtain ⟨rest, hparse, hargs⟩ := parse_wordLine hlimit (by simp) hwords
  rw [line, hparse, Command.ofWord]
  simp only [hargs, Command.parseLimit, hcount l.count_lt, hcount l.offset_lt]
  rfl

theorem Shell.parse_selectLine (columns : String) :
    Command.parse (selectLine columns) = .ok (.select (Argument.columns columns)) := by
  have hselect : IsCommandWord "select" := by decide +kernel
  have hline : (selectLine columns).toList = "select".toList ++ ' ' :: columns.toList := by
    simp [selectLine]
  rw [Command.parse_line hselect hline, Command.ofWord]
  simp only [Argument.commaList_trim]
  rfl

/-- The condition and the parameters stand around the last bar of the line. -/
theorem FilterStep.parse_line (f : FilterStep) :
    Command.parse f.line = .ok (.filter f.condition (f.params.map Argument.param)) := by
  unfold line
  split
  next hnil =>
    rw [Command.parse_whereLine, f.trimmed, Command.parseFilter, Text.splitLast?_eq_none (f.bar_free hnil), hnil]
    exact congrArg (fun text => Except.ok (Command.filter text [])) (String.ofList_toList)
  next hne =>
    have hline : (f.condition ++ " | " ++ ", ".intercalate f.params).toList =
        (f.condition.toList ++ [' ']) ++ '|' :: ' ' :: (", ".intercalate f.params).toList := by
      simp
    have hbar : '|' ∉ ' ' :: (", ".intercalate f.params).toList := by
      rw [String.toList_intercalate, List.mem_cons, not_or]
      refine ⟨by decide, Text.not_mem_intercalate (by decide) ?_⟩
      intro text htext
      obtain ⟨param, hmem, rfl⟩ := List.mem_map.1 htext
      exact (f.plain param hmem).2
    have hparam : (Value.ofUntyped ∘ fun text => String.ofList (Text.trim text.toList)) = Argument.param := by
      funext param
      rw [Function.comp_apply, Argument.param]
    have hspace := Argument.commaList_blank_append Text.isBlank_of_mem_space (", ".intercalate f.params).toList
    rw [List.singleton_append] at hspace
    rw [Command.parse_whereLine_of_bar hline hbar, Text.trim_append_of_blank _ Text.isBlank_of_mem_space,
      f.trimmed, String.ofList_toList, hspace,
      Argument.commaList_intercalate hne fun param hparam => (f.plain param hparam).1, List.map_map, hparam]

end

/-! ## Lines that are carried out -/

variable {Files : Type} [FileSystem Files]

/-- Loading leaves the files as they are. -/
theorem Dataset.runOn_load_of_ok {path : String} {files : Files} {rs : Dataset}
    (h : ((load path).runOn files).1 = .ok rs) : (load path).runOn files = (.ok rs, files) := by
  rw [← h]
  rfl

namespace Shell

/-- Lines that are carried out one after the other lead from one pipeline to another, and leave
the files as they are. -/
inductive Leads (files : Files) : Pipeline → List String → Pipeline → Prop where
  | nil (p : Pipeline) : Leads files p [] p
  | cons {p next last : Pipeline} {line output : String} {lines : List String}
      (carried : (carryOut line).endsIn ⟨p, ""⟩ files = ((.ok true, ⟨next, output⟩), files))
      (rest : Leads files next lines last) : Leads files p (line :: lines) last

variable {files : Files}

theorem Leads.append {p next last : Pipeline} {lines more : List String} (h : Leads files p lines next)
    (hmore : Leads files next more last) : Leads files p (lines ++ more) last := by
  induction h with
  | nil p => exact hmore
  | cons carried _ ih => exact .cons carried (ih hmore)

/-- A line that is carried out is no white space, so it is answered. -/
theorem runLine_of_carryOut {p next : Pipeline} {line output : String}
    (h : (carryOut line).endsIn ⟨p, ""⟩ files = ((.ok true, ⟨next, output⟩), files)) :
    (runLine p line).runOn files = (⟨next, output, .goesOn⟩, files) := by
  have hblank : Text.trim line.toList ≠ [] := by
    intro hblank
    rw [carryOut_of_error (parse_of_blank hblank)] at h
    cases h
  rw [runOn_runLine hblank, h]
  rfl

/-- The events of lines that lead somewhere have not failed, and the session goes on from there. -/
theorem Leads.events_append {p last : Pipeline} {lines : List String} (h : Leads files p lines last)
    (more : List String) :
    ∃ run, events p files (lines ++ more) = run ++ events last files more ∧ run.map (·.line) = lines ∧
      ∀ e ∈ run, ¬e.Failed ∧ e.reply.goesOn = true := by
  induction h with
  | nil p => exact ⟨[], rfl, rfl, by simp⟩
  | @cons p next last line output lines carried _ ih =>
    obtain ⟨run, hevents, hlines, hcarried⟩ := ih
    refine ⟨⟨line, files, p, ⟨next, output, .goesOn⟩⟩ :: run, ?_, ?_, ?_⟩
    · rw [List.cons_append, events, runLine_of_carryOut carried]
      exact congrArg _ hevents
    · rw [List.map_cons, hlines]
    · rw [List.forall_mem_cons]
      refine ⟨⟨?_, rfl⟩, hcarried⟩
      rintro ⟨error, herror⟩
      rw [carried] at herror
      cases herror

/-- The line of a step that is taken leads to what the step makes of the pipeline. -/
theorem leads_step {α : Type} (x? : Option α) {line : α → String} {f : Pipeline → α → Pipeline}
    (h : ∀ x p, ∃ output, (carryOut (line x)).endsIn ⟨p, ""⟩ files = ((.ok true, ⟨f p x, output⟩), files))
    (p : Pipeline) : Leads files p (x?.map line).toList (CommandLine.Query.step x? f p) := by
  cases x? with
  | none => exact .nil p
  | some x =>
    obtain ⟨output, hcarried⟩ := h x p
    exact .cons hcarried (.nil _)

theorem carryOut_of_run {p : Pipeline} {line : String} {c : Command}
    {ended : (Except (Stop LineError) Bool × State) × Files} (hparse : Command.parse line = .ok c)
    (hrun : c.run.endsIn ⟨p, ""⟩ files = ended) : (carryOut line).endsIn ⟨p, ""⟩ files = ended := by
  rw [carryOut_of_ok hparse, hrun]

/-- Without trouble about the history, a session that goes on to the end of its lines greets and prints
what they print. -/
theorem endsIn_typeSession (p : Pipeline) (ending : Ending) {lines : List String}
    (h : ∀ e ∈ events p files lines, e.reply.goesOn = true) :
    ((CommandLine.typeSession p { lines, ending, history := { load? := none, save? := none } }).endsIn .nothing
        files).1 =
      (.ok (), .ofOutput (greeting p ++ String.join ((events p files lines).map (·.reply.output)) ++ ending.text)) := by
  have hlines := endsIn_typeLines p ending lines (.ofOutput (greeting p)) files
  rw [crash?_of_goesOn h, List.all_eq_true.2 h, if_pos rfl] at hlines
  simp only [CommandLine.typeSession, Job.endsIn_bind, CommandLine.Terminal.endsIn_print, Option.map_none,
    Option.getD_none, CommandLine.Printed.nothing, String.empty_append, String.append_empty]
  rw [CommandLine.Printed.ofOutput] at hlines
  generalize (CommandLine.typeLines p ending lines).endsIn _ files = ended at hlines ⊢
  obtain ⟨result, after⟩ := ended
  obtain rfl : result = _ := hlines
  simp [CommandLine.Printed.ofOutput, String.append_assoc]

end Shell

namespace Steps

open Shell CommandLine

variable {files : Files}

/-- The join of the query is loaded, and the line of the join leads to what it makes of a pipeline. -/
theorem exists_join {s : Steps}
    (hjoin : ∀ j ∈ s.join?, ∃ foreign, ((Dataset.load j.path.text).runOn files).1 = .ok foreign) :
    ∃ join?, s.query.loadJoin.runOn files = (.ok join?, files) ∧
      ∀ p, Leads files p (s.join?.map JoinStep.line).toList (Query.step join? Pipeline.join p) := by
  cases hj : s.join? with
  | none =>
    refine ⟨none, ?_, fun p => .nil p⟩
    simp [Query.loadJoin, query, hj]
  | some j =>
    obtain ⟨foreign, hforeign⟩ := hjoin j hj
    have hload := Dataset.runOn_load_of_ok hforeign
    let join : Join :=
      { foreign, localKey := j.localKey.text, foreignKey := j.foreignKey.text, kind := .ofText j.kind.text,
        alias? := j.alias?.map (·.text) }
    have hrun : ∀ p, (Shell.Command.join j.path.text j.localKey.text "=" j.foreignKey.text (.ofText j.kind.text)
        (j.alias?.map (·.text))).run.endsIn ⟨p, ""⟩ files =
          ((.ok true, ⟨p.join join, "" ++ rowCount (p.join join).current.length⟩), files) := by
      intro p
      rw [Shell.Command.run, Job.endsIn_bind, Job.endsIn_ofFiles, hload]
      rfl
    refine ⟨some join, ?_, fun p => .cons (carryOut_of_run j.parse_line (hrun p)) (.nil _)⟩
    simp [Query.loadJoin, query, hj, hload, join]

/-- What the query makes of a pipeline, step by step. -/
theorem steps_query (s : Steps) (join? : Option Join) (p : Pipeline) : s.query.steps join? p =
    Query.step s.select? (fun p columns => p.select (Argument.columns columns))
      (Query.step s.limit? (fun p l => p.limit l.count l.offset)
        (Query.step s.sort? (fun p sort => p.sortBy sort.column.text sort.direction)
          (Query.step s.filter? (fun p f => p.filter f.condition (f.params.map Argument.param))
            (Query.step join? Pipeline.join p)))) := by
  have hfilter : ∀ p, Query.step s.query.condition? (fun p c => p.filter c (s.query.params.map Argument.param)) p =
      Query.step s.filter? (fun p f => p.filter f.condition (f.params.map Argument.param)) p := by
    intro p
    unfold query
    cases s.filter? <;> rfl
  have hsort : ∀ p, Query.step s.query.orderBy? (fun p column => p.sortBy column s.query.direction) p =
      Query.step s.sort? (fun p sort => p.sortBy sort.column.text sort.direction) p := by
    intro p
    unfold query Query.direction
    cases s.sort? with
    | none => rfl
    | some sort => cases hdirection : sort.direction <;> simp [Query.step, hdirection]
  have hlimit : ∀ p, Query.step s.query.limit? (fun p count => p.limit count s.query.offset) p =
      Query.step s.limit? (fun p l => p.limit l.count l.offset) p := by
    intro p
    unfold query
    cases s.limit? <;> rfl
  rw [Query.steps]
  simp only [hfilter, hsort, hlimit]
  rfl

/-- The lines of the steps lead to what the query makes of a pipeline. -/
theorem leads_lines {s : Steps}
    (hjoin : ∀ j ∈ s.join?, ∃ foreign, ((Dataset.load j.path.text).runOn files).1 = .ok foreign) :
    ∃ join?, s.query.loadJoin.runOn files = (.ok join?, files) ∧
      ∀ p, Leads files p s.lines (s.query.steps join? p) := by
  obtain ⟨join?, hload, hleads⟩ := exists_join hjoin
  refine ⟨join?, hload, fun p => ?_⟩
  rw [steps_query, lines]
  refine ((((hleads p).append (leads_step s.filter? ?_ _)).append (leads_step s.sort? ?_ _)).append
    (leads_step s.limit? ?_ _)).append (leads_step s.select? ?_ _)
  · exact fun f p => ⟨_, carryOut_of_run f.parse_line rfl⟩
  · exact fun sort p => ⟨_, carryOut_of_run sort.parse_line rfl⟩
  · exact fun l p => ⟨_, carryOut_of_run l.parse_line rfl⟩
  · exact fun columns p => ⟨_, carryOut_of_run (parse_selectLine columns) rfl⟩

theorem endsIn_run_query {s : Steps} {join? : Option Join}
    (hload : s.query.loadJoin.runOn files = (.ok join?, files)) (p : Pipeline) :
    (s.query.run p).endsIn .nothing files =
      ((.ok (), .ofOutput ((s.query.steps join? p).jsonText ++ "\n")), files) := by
  have hcsv : s.query.csv? = none := rfl
  rw [Query.run, Job.endsIn_bind, Job.endsIn_ofFiles, hload]
  simp only [Except.mapError, Query.deliver, hcsv, Terminal.endsIn_print, Printed.nothing, Printed.ofOutput,
    String.empty_append]

end Steps

/-! ## The program -/

namespace CommandLine

/-- The pipeline that a command starts from, on a dataset that was loaded. -/
def startOn (rs : Dataset) (pretty : Bool) : Pipeline :=
  .ofDataset rs { Settings.standard with layout := if pretty then .indented else .compact }

/-- An empty path leads to no file. -/
theorem ne_empty_of_load [LawfulFileSystem Files] {data : String} {files : Files} {rs : Dataset}
    (h : ((Dataset.load data).runOn files).1 = .ok rs) : data ≠ "" := by
  rintro rfl
  rw [Dataset.runOn_load, LawfulFileSystem.read_empty] at h
  cases h

/-- A command is run on the data that was loaded. -/
theorem endsIn_run {data : String} {files : Files} {rs : Dataset}
    (hdata : ((Dataset.load data).runOn files).1 = .ok rs) (pretty : Bool) (command : Command) (console : Console) :
    (Arguments.run { data, pretty, delimiter := ',', command } console).endsIn .nothing files =
      (command.run console (startOn rs pretty)).endsIn .nothing files := by
  have hload : (Arguments.load { data, pretty, delimiter := ',', command }).runOn files =
      (.ok (startOn rs pretty), files) := by
    have hbyte : delimiterByte? ',' = some ','.toUInt8 := by decide
    rw [Arguments.load, hbyte]
    show (Dataset.load data >>= _).runOn files = _
    rw [FileScript.runOn_bind, Dataset.runOn_load_of_ok hdata]
    rfl
  rw [Arguments.run, Job.endsIn_bind, Job.endsIn_ofFiles, hload]
  rfl

end CommandLine

open CommandLine

/-- **The two front ends agree.** Arguments that ask for the steps of a query, such as those that
spell them one after the other, print what the shell prints for `json` behind the lines of the
steps, on the same data and in the same layout. No line fails, and the session is the one that
the program runs for the shell. -/
theorem query_prints_session_json [LawfulFileSystem Files] (s : Steps) {data : String} (pretty : Bool)
    {files : Files} {rs : Dataset} (hdata : ((Dataset.load data).runOn files).1 = .ok rs)
    (hjoin : ∀ j ∈ s.join?, ∃ foreign, ((Dataset.load j.path.text).runOn files).1 = .ok foreign) :
    let start := startOn rs pretty
    let run := Shell.events start files (s.lines ++ ["json"])
    ∃ output : String,
      (∀ args console, parse? args = some (.work { data, pretty, delimiter := ',', command := .query s.query }) →
        (CommandLine.run args console).runOn files = (.succeeded (.ofOutput output), files)) ∧
      parse? (s.arguments data pretty) =
        some (.work { data, pretty, delimiter := ',', command := .query s.query }) ∧
      run.map (·.line) = s.lines ++ ["json"] ∧ (∀ e ∈ run, ¬e.Failed) ∧
      run.getLast?.map (·.reply.output) = some output ∧
      ∀ args ending, parse? args = some (.work { data, pretty, delimiter := ',', command := .shell }) →
        ((CommandLine.run args
            { lines := s.lines ++ ["json"], ending, history := { load? := none, save? := none } }).runOn files).1 =
          .succeeded (.ofOutput
            (Shell.greeting start ++ String.join (run.map (·.reply.output)) ++ ending.text)) := by
  intro start run
  obtain ⟨join?, hload, hleads⟩ := s.leads_lines hjoin
  let last := s.query.steps join? start
  have hparse : Shell.Command.parse "json" = .ok .json := by decide +kernel
  have hjson : (Shell.carryOut "json").endsIn ⟨last, ""⟩ files =
      ((.ok true, ⟨last, "" ++ (last.jsonText ++ "\n")⟩), files) := Shell.carryOut_of_run hparse rfl
  rw [String.empty_append] at hjson
  have hsession : Shell.Leads files start (s.lines ++ ["json"]) last :=
    (hleads start).append (.cons hjson (.nil last))
  obtain ⟨front, hfront, -⟩ := (hleads start).events_append ["json"]
  obtain ⟨all, hall, hlines, hcarried⟩ := hsession.events_append []
  rw [Shell.events, List.append_nil, List.append_nil] at hall
  have hrun : run = all := hall
  refine ⟨last.jsonText ++ "\n", ?_, s.parse?_arguments (ne_empty_of_load hdata) pretty, ?_, ?_, ?_, ?_⟩
  · intro args console hargs
    rw [runOn_run hargs, endsIn_run hdata, Command.run, s.endsIn_run_query hload start]
    rfl
  · rw [hrun, hlines]
  · intro e he
    exact (hcarried e (hrun ▸ he)).1
  · show (Shell.events start files (s.lines ++ ["json"])).getLast?.map _ = _
    rw [hfront, Shell.events, Shell.runLine_of_carryOut hjson, List.getLast?_append]
    rfl
  · intro args ending hargs
    have hgoesOn : ∀ e ∈ run, e.reply.goesOn = true := fun e he => (hcarried e (hrun ▸ he)).2
    rw [runOn_run hargs, endsIn_run hdata, Command.run, Shell.endsIn_typeSession start ending hgoesOn]
    rfl

/-- All steps but a sort, with a bar in the condition and a parameter, and a join that adds a column
to one record and null to the other. -/
theorem query_prints_session_json_of_join :
    let word (text : String) (h : text.toList ≠ [] ∧ text.toList.all fun c => !Text.isBlank c) : Word :=
      ⟨text, .of_all h.1 h.2⟩
    let s : Steps :=
      { join? := some
          { path := word "f.json" (by decide), localKey := word "k" (by decide), foreignKey := word "id" (by decide),
            kind := word "left" (by decide), alias? := some (word "f" (by decide)) }
        filter? := some
          { condition := "v = 'x|y' or v = ?", params := [" it's"], trimmed := by decide +kernel,
            plain := by decide, bar_free := by decide }
        sort? := none
        limit? := some { count := 5, offset := 0, count_lt := by decide, offset_lt := by decide }
        select? := some "k , f.w" }
    let d : Directory := ⟨[("data.json", "[\x7b\"k\":1,\"v\":\"x|y\"\x7d,\x7b\"k\":2,\"v\":\"it's\"\x7d]".toUTF8),
      ("f.json", "[\x7b\"id\":1,\"w\":true\x7d]".toUTF8)]⟩
    let output := "[\x7b\"k\":1,\"f.w\":true\x7d,\x7b\"k\":2,\"f.w\":null\x7d]\n"
    let console : Console := { lines := [], ending := .endOfInput, history := { load? := none, save? := none } }
    s.lines = ["join f.json k = id left f", "where v = 'x|y' or v = ? |  it's", "limit 5 0",
        "select k , f.w"] ∧
      (CommandLine.run (s.arguments "data.json" false) console).runOn d = (.succeeded (.ofOutput output), d) := by
  intro word s d output console
  let load (path : String) : Except LoadError Dataset := ((Dataset.load path).runOn d).1
  have hload : ∀ path, (load path).toOption.isSome = true → load path = .ok ((load path).toOption.getD []) := by
    intro path h
    cases hresult : load path with
    | error e =>
      rw [hresult] at h
      cases h
    | ok rs => rfl
  have hdata := hload "data.json" (by decide +kernel)
  have hjoin : ∀ j ∈ s.join?, ∃ foreign, ((Dataset.load j.path.text).runOn d).1 = .ok foreign := by
    intro j hj
    obtain rfl := Option.some.inj hj
    exact ⟨_, hload "f.json" (by decide +kernel)⟩
  obtain ⟨printed, hquery, hargs, -, -, hlast, -⟩ := query_prints_session_json s false hdata hjoin
  have houtput : ((Shell.events (startOn ((load "data.json").toOption.getD []) false) d
      (s.lines ++ ["json"])).getLast?.map (·.reply.output)) = some output := by decide +kernel
  obtain rfl := Option.some.inj (houtput.symm.trans hlast)
  exact ⟨by decide +kernel, hquery _ console hargs⟩

end RowQuery
