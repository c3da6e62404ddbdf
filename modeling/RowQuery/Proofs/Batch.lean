import RowQuery.CommandLine.Outcome
import RowQuery.Proofs.Files
/-!
# A command is carried out as a whole or not at all

A command other than the shell prints and writes only when nothing can fail any more. It reads files
until its result is there (`Query.snd_loadJoin`, `Arguments.snd_load`); then it prints, or a query that is
asked for a table writes, once, if the result has records (`Query.wholly_deliver`). So a command that
fails leaves no trace, and one that succeeds at most the file of its table. What a write does is what
`LawfulFileSystem` says of it.
-/

namespace RowQuery.CommandLine

open Terminal

variable {Files : Type} [FileSystem Files]

/-! ## The table of a query -/

/-- The table that a query leaves of its result, with the path of its file: none if it is not asked
for one, or if the result has no records. -/
def Query.table? (q : Query) (result : Pipeline) : Option (String × ByteArray) := do
  let path ← q.csv?
  let bytes ← result.current.csv? result.settings
  return (path, ⟨bytes.toArray⟩)

/-- The table that a command leaves, where a query finds its foreign records in the files. -/
def Command.table? (p : Pipeline) (files : Files) : Command → Option (String × ByteArray)
  | query q =>
    match (q.loadJoin.runOn files).1 with
    | .ok join? => q.table? (q.steps join? p)
    | .error _ => none
  | _ => none

def Arguments.table? (a : Arguments) (files : Files) : Option (String × ByteArray) :=
  match (a.load.runOn files).1 with
  | .ok p => a.command.table? p files
  | .error _ => none

/-! ## How commands end -/

/-- A failure has printed nothing and leaves the files as they were. A success leaves them too, but for
the table, if there is one. Nothing crashes. -/
def Wholly (table? : Option (String × ByteArray)) (files : Files) :
    (Except (Stop Failure) Unit × Printed) × Files → Prop
  | ((.error (.failed _), printed), after) => printed = .nothing ∧ after = files
  | ((.error (.crashed _), _), _) => False
  | ((.ok (), _), after) =>
    match table? with
    | none => after = files
    | some (path, bytes) => FileSystem.Written files path bytes after

/-- Work that looks something up first, and fails if that fails, ends wholly if the rest of it does. -/
theorem wholly_ofFiles_bind {α : Type} {script : FileScript (Except Failure α)} {work : α → Terminal Unit}
    {files : Files} {table? : Option (String × ByteArray)} (hfiles : (script.runOn files).2 = files)
    (hwork : ∀ a, (script.runOn files).1 = .ok a → Wholly table? files ((work a).endsIn .nothing files)) :
    Wholly table? files ((Job.ofFiles id script >>= work).endsIn .nothing files) := by
  rw [Job.endsIn_bind, Job.endsIn_ofFiles, hfiles]
  cases hresult : (script.runOn files).1 with
  | error e => exact ⟨rfl, rfl⟩
  | ok a => exact hwork a hresult

theorem Query.wholly_deliver [LawfulFileSystem Files] (q : Query) (p : Pipeline) (files : Files) :
    Wholly (q.table? p) files ((q.deliver p).endsIn .nothing files) := by
  rw [deliver, table?]
  cases q.csv? with
  | none => rfl
  | some path =>
    dsimp only
    rw [Job.endsIn_bind, Job.endsIn_ofFiles, Pipeline.exportCsv]
    cases p.current.csv? p.settings with
    | none => rfl
    | some bytes =>
      dsimp only
      rw [FileScript.runOn_bind, FileScript.runOn_writeFile]
      rcases hwrite : FileSystem.write files path ⟨bytes.toArray⟩ with ⟨result, after⟩
      cases result with
      | error e => exact ⟨rfl, LawfulFileSystem.failed_write hwrite⟩
      | ok _ => exact LawfulFileSystem.written hwrite

theorem Query.snd_loadJoin (q : Query) (files : Files) : (q.loadJoin.runOn files).2 = files := by
  rw [loadJoin]
  cases q.join? with
  | none => rfl
  | some path =>
    dsimp only
    rw [FileScript.runOn_bind, Dataset.runOn_load]
    cases Dataset.ofReading (FileSystem.read files path) <;> cases q.localKey? <;> cases q.foreignKey? <;> rfl

theorem Arguments.snd_load (a : Arguments) (files : Files) : (a.load.runOn files).2 = files := by
  rw [load]
  cases delimiterByte? a.delimiter with
  | none => rfl
  | some delimiter =>
    dsimp only
    rw [FileScript.runOn_bind, Dataset.runOn_load]
    cases Dataset.ofReading (FileSystem.read files a.data) <;> rfl

/-- Text after text is printed as one. -/
theorem endsIn_forM_print {α : Type} (line : α → String) (items : List α) (printed : Printed) (files : Files) :
    (forM items fun item => print (line item)).endsIn printed files =
      ((.ok (), { printed with output := printed.output ++ String.join (items.map line) }), files) := by
  induction items generalizing printed with
  | nil => simp [String.join]
  | cons item items ih =>
    rw [List.forM_cons, Job.endsIn_bind, endsIn_print]
    dsimp only
    rw [ih, List.map_cons, String.join_cons, String.append_assoc]

theorem Command.wholly_run [LawfulFileSystem Files] {c : Command} (hbatch : c ≠ .shell) (console : Console)
    (p : Pipeline) (files : Files) : Wholly (c.table? p files) files ((c.run console p).endsIn .nothing files) := by
  cases c with
  | shell => exact absurd rfl hbatch
  | query q =>
    refine wholly_ofFiles_bind (q.snd_loadJoin files) fun join? hjoin => ?_
    rw [table?, hjoin]
    exact q.wholly_deliver (q.steps join? p) files
  | aggregate texts condition? params =>
    rw [run]
    cases Argument.fields Failure.field texts with
    | error e => exact ⟨rfl, rfl⟩
    | ok fields => rfl
  | group column =>
    rw [run, endsIn_forM_print]
    rfl
  | page number perPage => rfl

theorem Arguments.wholly_run [LawfulFileSystem Files] {a : Arguments} (hbatch : a.command ≠ .shell)
    (console : Console) (files : Files) :
    Wholly (a.table? files) files ((a.run console).endsIn .nothing files) := by
  refine wholly_ofFiles_bind (a.snd_load files) fun p hload => ?_
  rw [table?, hload]
  exact Command.wholly_run hbatch console p files

/-- **Commands are carried out as a whole or not at all.** Arguments that ask for a query, aggregates,
groups or a page either fail, and then nothing has been printed and every file is as it was; or they
succeed, and then the one file that is made or replaced, if any, is that of the table that a query asks
for and whose records its result has. -/
theorem batch_all_or_nothing [LawfulFileSystem Files] {args : List String} {a : Arguments}
    (hargs : parse? args = some (.work a)) (hbatch : a.command ≠ .shell) (console : Console) (files : Files) :
    (∃ e, (run args console).runOn files = (.failed e .nothing, files)) ∨
      ∃ printed after, (run args console).runOn files = (.succeeded printed, after) ∧
        match a.table? files with
        | none => after = files
        | some (path, bytes) => FileSystem.Written files path bytes after := by
  have hwholly := Arguments.wholly_run hbatch console files
  rw [runOn_run hargs]
  generalize (a.run console).endsIn .nothing files = ended at hwholly ⊢
  match ended with
  | ((.error (.failed e), printed), after) =>
    obtain ⟨rfl, rfl⟩ := hwholly
    exact .inl ⟨e, rfl⟩
  | ((.error (.crashed _), _), _) => exact hwholly.elim
  | ((.ok (), printed), after) => exact .inr ⟨printed, after, rfl, hwholly⟩

/-- A query that writes its table over a file that is there. -/
theorem batch_all_or_nothing_of_table :
    let args := ["--data", "d.json", "--delimiter", ";", "query", "--where", "k > 1", "--csv", "out.csv"]
    let d : Directory := ⟨[("d.json", "[\x7b\"k\":1\x7d,\x7b\"k\":2,\"v\":\"a;b\"\x7d]".toUTF8),
      ("out.csv", "old".toUTF8)]⟩
    let console : Console := { lines := [], ending := .endOfInput, history := { load? := none, save? := none } }
    ∃ printed after, (run args console).runOn d = (.succeeded printed, after) ∧
      FileSystem.Written d "out.csv" "k;v\n2;\"a;b\"\n".toUTF8 after := by
  intro args d console
  let q : Query :=
    { select? := none, condition? := some "k > 1", params := [], join? := none, localKey? := none
      foreignKey? := none, joinKind := "inner", alias? := none, orderBy? := none, descending := false
      limit? := none, offset := 0, csv? := some "out.csv" }
  let a : Arguments := { data := "d.json", pretty := false, delimiter := ';', command := .query q }
  have hargs : parse? args = some (.work a) := by decide +kernel
  have htable : a.table? d = some ("out.csv", "k;v\n2;\"a;b\"\n".toUTF8) := by decide +kernel
  have hstatus : ((run args console).runOn d).1.status = 0 := by decide +kernel
  rcases batch_all_or_nothing hargs (by decide) console d with ⟨e, hfailed⟩ | ⟨printed, after, hrun, hleft⟩
  · rw [hfailed] at hstatus
    cases hstatus
  · rw [htable] at hleft
    exact ⟨printed, after, hrun, hleft⟩

end RowQuery.CommandLine
