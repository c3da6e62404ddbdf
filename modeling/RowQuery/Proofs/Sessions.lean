import RowQuery.CommandLine.Outcome
import RowQuery.Directory
import Mathlib
/-!
# What a session does to its pipeline

`pipeline_run` says once what a command does to the pipeline that it works on: however it ends, it
has performed its operation, if it has one, on the current dataset, and left the rest of the
pipeline alone. A question has none, and neither has a command that fails (`operation?_of_failed`),
since it fails before it touches the pipeline. What holds of a whole session follows by induction on
its lines: the source and the settings stay, and the current dataset is what the operations make of
the source.
-/

namespace RowQuery.Shell

/-! ## Operations -/

/-- A step of the pipeline, with all that it needs. -/
inductive Operation where
  | filter (condition : String) (params : List Value)
  | select (columns : List String)
  | sort (column : String) (direction : SortDirection)
  | limit (count offset : Nat)
  | join (j : Join)
  | reset

namespace Operation

/-- What an operation makes of the current dataset, where the pipeline started from `source`. -/
def apply (source : Dataset) : Operation → Dataset → Dataset
  | filter condition params, rs => rs.filterBy (.parse condition params)
  | select columns, rs => rs.project (.ofColumns columns)
  | sort column direction, rs => rs.sortBy column direction
  | limit count offset, rs => rs.limit count offset
  | join j, rs => rs.join j
  | reset, _ => source

/-- The pipeline after an operation, if there is one. -/
def perform (p : Pipeline) : Option Operation → Pipeline
  | none => p
  | some operation => p.advance (operation.apply p.source)

@[simp] theorem source_perform (p : Pipeline) (operation? : Option Operation) :
    (perform p operation?).source = p.source := by
  cases operation? <;> rfl

@[simp] theorem settings_perform (p : Pipeline) (operation? : Option Operation) :
    (perform p operation?).settings = p.settings := by
  cases operation? <;> rfl

end Operation

namespace Command

variable {Files : Type} [FileSystem Files]

/-- The operation that a command stands for, with the foreign records that a join finds in the
files. A join that finds none stands for no operation. -/
def operation? (files : Files) : Command → Option Operation
  | filter condition params => some (.filter condition params)
  | select columns => some (.select columns)
  | sort column direction => some (.sort column direction)
  | limit number offset => some (.limit number offset)
  | join path localKey _ foreignKey kind alias? =>
    match ((Dataset.load path).runOn files).1 with
    | .ok foreign => some (.join { foreign, localKey, foreignKey, kind, alias? })
    | .error _ => none
  | reset => some .reset
  | _ => none

/-- The commands that ask about the current dataset or do nothing with it. -/
def isQuestion : Command → Bool
  | group _ | aggregate _ | page _ _ | exportCsv _ | json | table | count | help | exit => true
  | _ => false

theorem operation?_of_isQuestion {c : Command} (h : c.isQuestion = true) (files : Files) :
    c.operation? files = none := by
  cases c with
  | filter | select | sort | limit | join | reset => cases h
  | _ => rfl

/-- A command leaves the pipeline that its operation makes, however it ends. -/
theorem pipeline_run (c : Command) (s : State) (files : Files) :
    (c.run.endsIn s files).1.2.pipeline = Operation.perform s.pipeline (c.operation? files) := by
  cases c with
  | filter | select | sort | limit | reset =>
    simp only [run, Job.endsIn_bind, Action.endsIn_chain, Action.endsIn_countRows, Job.endsIn_pure]
    rfl
  | join path localKey operator foreignKey kind alias? =>
    rw [run, Job.endsIn_bind, Job.endsIn_ofFiles, operation?]
    cases ((Dataset.load path).runOn files).1 <;> rfl
  | exportCsv path =>
    simp only [run, Job.endsIn_bind, Action.endsIn_pipeline, Job.endsIn_ofFiles]
    cases ((s.pipeline.exportCsv path).runOn files).1 <;> rfl
  | page | table =>
    simp only [run, Job.endsIn_bind, Action.endsIn_pipeline, Action.endsIn_display]
    cases (Dataset.table _).crash? <;> rfl
  | _ => rfl

/-- A command that fails stands for no operation: what can fail comes before the pipeline is touched. -/
theorem operation?_of_failed {c : Command} {s : State} {files : Files} {e : LineError}
    (h : (c.run.endsIn s files).1.1 = .error (.failed e)) : c.operation? files = none := by
  cases c with
  | join path localKey operator foreignKey kind alias? =>
    rw [run, Job.endsIn_bind, Job.endsIn_ofFiles] at h
    rw [operation?]
    cases hload : ((Dataset.load path).runOn files).1 with
    | error e => rfl
    | ok foreign =>
      rw [hload] at h
      cases h
  | filter | select | sort | limit | reset => cases h
  | _ => rfl

end Command

/-! ## One line -/

section
variable {Files : Type} [FileSystem Files]

/-- The operation that a line spells. -/
def lineOperation? (files : Files) (line : String) : Option Operation :=
  match Command.parse line with
  | .ok c => c.operation? files
  | .error _ => none

theorem carryOut_of_error {line : String} {e : ParseError} (h : Command.parse line = .error e) :
    carryOut line = throw (.failed (.parse e)) := by
  rw [carryOut, h]

theorem carryOut_of_ok {line : String} {c : Command} (h : Command.parse line = .ok c) : carryOut line = c.run := by
  rw [carryOut, h]

/-- A line leaves the pipeline that its operation makes, however it ends. -/
theorem pipeline_carryOut (line : String) (s : State) (files : Files) :
    ((carryOut line).endsIn s files).1.2.pipeline = Operation.perform s.pipeline (lineOperation? files line) := by
  rw [lineOperation?]
  cases hparse : Command.parse line with
  | error e =>
    rw [carryOut_of_error hparse]
    rfl
  | ok c =>
    rw [carryOut_of_ok hparse]
    exact c.pipeline_run s files

/-- A line that fails spells no operation. -/
theorem lineOperation?_of_failed {line : String} {s : State} {files : Files} {e : LineError}
    (h : ((carryOut line).endsIn s files).1.1 = .error (.failed e)) : lineOperation? files line = none := by
  rw [lineOperation?]
  cases hparse : Command.parse line with
  | error e => rfl
  | ok c =>
    rw [carryOut_of_ok hparse] at h
    exact Command.operation?_of_failed h

theorem parse_of_blank {line : String} (h : Text.trim line.toList = []) :
    Command.parse line = .error (.unknown "") := by
  rw [Command.parse, h]
  decide +kernel

/-- A session shows how a line ended and goes on with the state that it ended in. -/
theorem runOn_runLine {line : String} (h : Text.trim line.toList ≠ []) (p : Pipeline) (files : Files) :
    (runLine p line).runOn files =
      (answered ((carryOut line).endsIn ⟨p, ""⟩ files).1.1 ((carryOut line).endsIn ⟨p, ""⟩ files).1.2,
        ((carryOut line).endsIn ⟨p, ""⟩ files).2) := by
  rw [runLine, if_neg h, FileScript.runOn_bind,
    show ((carryOut line).script ⟨p, ""⟩).runOn files = (carryOut line).endsIn ⟨p, ""⟩ files from rfl]
  obtain ⟨⟨result, s⟩, after⟩ := (carryOut line).endsIn ⟨p, ""⟩ files
  rfl

theorem pipeline_answered (result : Except (Stop LineError) Bool) (s : State) :
    (answered result s).pipeline = s.pipeline := by
  match result with
  | .ok true | .ok false | .error (.failed _) | .error (.crashed _) => rfl

/-- The pipeline after any line, whether it is blank, fails, crashes or is carried out. -/
theorem runLine_pipeline (p : Pipeline) (files : Files) (line : String) :
    ((runLine p line).runOn files).1.pipeline = Operation.perform p (lineOperation? files line) := by
  by_cases hblank : Text.trim line.toList = []
  · rw [runLine, if_pos hblank, lineOperation?, parse_of_blank hblank]
    rfl
  · rw [runOn_runLine hblank, pipeline_answered]
    exact pipeline_carryOut line ⟨p, ""⟩ files

end

/-! ## All lines -/

/-- A typed line, the files and the pipeline it was typed at, and the reply. -/
structure Event (Files : Type) where
  line : String
  files : Files
  before : Pipeline
  reply : Reply

section
variable {Files : Type}

/-- The pipeline after the line. -/
def Event.after (e : Event Files) : Pipeline := e.reply.pipeline

/-- The pipeline after events that follow each other from `p`. -/
def pipelineAfter (p : Pipeline) (run : List (Event Files)) : Pipeline := (run.getLast?.map Event.after).getD p

/-- The crash that events ended in, if they did. -/
def crash? (run : List (Event Files)) : Option Crash :=
  run.getLast?.bind fun e =>
    match e.reply.next with
    | .crashes c => some c
    | _ => none

theorem crash?_cons_cons (e next : Event Files) (run : List (Event Files)) :
    crash? (e :: next :: run) = crash? (next :: run) := by
  rw [crash?, crash?, List.getLast?_cons_cons]

theorem crash?_of_goesOn {run : List (Event Files)} (h : ∀ e ∈ run, e.reply.goesOn = true) : crash? run = none := by
  rw [crash?]
  cases hlast : run.getLast? with
  | none => rfl
  | some e =>
    have hnext : e.reply.next = .goesOn := of_decide_eq_true (h e (List.mem_of_getLast? hlast))
    rw [Option.bind_some, hnext]

end

section
variable {Files : Type} [FileSystem Files]

namespace Event

def operation? (e : Event Files) : Option Operation := lineOperation? e.files e.line

/-- The line was no command, or its command failed. -/
def Failed (e : Event Files) : Prop :=
  ∃ error, ((carryOut e.line).endsIn ⟨e.before, ""⟩ e.files).1.1 = .error (.failed error)

/-- The line was a question. -/
def Asked (e : Event Files) : Prop := ∃ c, Command.parse e.line = .ok c ∧ c.isQuestion = true

end Event

/-- What comes of typed lines, one after the other, up to the end of the session. -/
def events (p : Pipeline) (files : Files) : List String → List (Event Files)
  | [] => []
  | line :: lines =>
    let result := (runLine p line).runOn files
    ⟨line, files, p, result.1⟩ :: if result.1.goesOn then events result.1.pipeline result.2 lines else []

/-- What a session prints is what its events reply, and how it ends unless a command ended it. -/
theorem endsIn_typeLines (p : Pipeline) (ending : Ending) (lines : List String) (printed : CommandLine.Printed)
    (files : Files) :
    ((CommandLine.typeLines p ending lines).endsIn printed files).1 =
      ((crash? (events p files lines)).elim (.ok ()) fun c => .error (.crashed c),
        { printed with output := printed.output ++ (String.join ((events p files lines).map (·.reply.output)) ++
            if (events p files lines).all (·.reply.goesOn) then ending.text else "") }) := by
  induction lines generalizing p printed files with
  | nil => simp [CommandLine.typeLines, events, crash?, String.join]
  | cons line lines ih =>
    rw [CommandLine.typeLines, Job.endsIn_bind, Job.endsIn_lift, events]
    generalize (runLine p line).runOn files = result
    obtain ⟨⟨q, output, next⟩, after⟩ := result
    dsimp only
    rw [Job.endsIn_bind, CommandLine.Terminal.endsIn_print]
    cases next with
    | goesOn =>
      have hcrash : crash? (⟨line, files, p, ⟨q, output, .goesOn⟩⟩ :: events q after lines) =
          crash? (events q after lines) := by
        cases events q after lines with
        | nil => rfl
        | cons e run => exact crash?_cons_cons _ _ _
      have hgoesOn : (Reply.mk q output .goesOn).goesOn = true := rfl
      simp only [hgoesOn, if_true, hcrash, ih, List.map_cons, String.join_cons, List.all_cons, Bool.true_and,
        String.append_assoc]
    | leaves => simp [Reply.goesOn, crash?, String.join]
    | crashes c => simp [Reply.goesOn, crash?, String.join]

/-- Every event performs its operation on a pipeline with the source and the settings of the
first one. -/
theorem after_of_mem_events {p : Pipeline} {files : Files} {lines : List String} :
    ∀ e ∈ events p files lines, e.after = Operation.perform e.before e.operation? ∧
      e.before.source = p.source ∧ e.before.settings = p.settings := by
  induction lines generalizing p files with
  | nil => simp [events]
  | cons line lines ih =>
    rw [events, List.forall_mem_cons]
    refine ⟨⟨runLine_pipeline p files line, rfl, rfl⟩, fun e he => ?_⟩
    split at he
    · obtain ⟨hafter, hsource, hsettings⟩ := ih e he
      rw [runLine_pipeline] at hsource hsettings
      exact ⟨hafter, by simpa using hsource, by simpa using hsettings⟩
    · cases he

/-- The whole session: its operations, one after the other, applied to the current dataset. -/
theorem current_pipelineAfter (p : Pipeline) (files : Files) (lines : List String) :
    (pipelineAfter p (events p files lines)).current =
      ((events p files lines).filterMap Event.operation?).foldl (fun rs operation => operation.apply p.source rs)
        p.current := by
  induction lines generalizing p files with
  | nil => rfl
  | cons line lines ih =>
    have hline := runLine_pipeline p files line
    rw [events]
    generalize (runLine p line).runOn files = result at hline ⊢
    -- The pipeline after the line is where the rest of the session starts.
    have hrest : ∀ rest : List (Event Files),
        pipelineAfter p (⟨line, files, p, result.1⟩ :: rest) = pipelineAfter result.1.pipeline rest := by
      intro rest
      cases rest <;> rfl
    have hstep : ∀ rest : List (Event Files),
        ((⟨line, files, p, result.1⟩ :: rest).filterMap Event.operation?).foldl
            (fun rs operation => operation.apply p.source rs) p.current =
          (rest.filterMap Event.operation?).foldl
            (fun rs operation => operation.apply result.1.pipeline.source rs) result.1.pipeline.current := by
      intro rest
      rw [hline, Operation.source_perform, List.filterMap_cons]
      cases hop : Event.operation? ⟨line, files, p, result.1⟩ <;>
        rw [show lineOperation? files line = _ from hop] <;> rfl
    rw [hrest, hstep]
    split
    · exact ih _ _
    · rfl

/-- **A session keeps its pipeline intact.** A line works on the one pipeline of the session, which
its command takes apart and puts together in place. After every line, also one that fails or
crashes, the source and the settings are those of the start. A line that fails and a question leave
the current dataset as it was, and a reset goes back to the source. After the last line the current
dataset is what the operations of the lines that were carried out make of the source, in their
order. The events are those of the session that is typed: it prints their replies, and ends with
the crash if they end in one. -/
theorem session_keeps_pipeline (rs : Dataset) (settings : Settings) (files : Files) (lines : List String) :
    let start := Pipeline.ofDataset rs settings
    let run := events start files lines
    (∀ e ∈ run, e.after.source = rs ∧ e.after.settings = settings) ∧
      (∀ e ∈ run, e.Failed ∨ e.Asked → e.after.current = e.before.current) ∧
      (∀ e ∈ run, Command.parse e.line = .ok .reset → e.after.current = rs) ∧
      (pipelineAfter start run).current =
        (run.filterMap Event.operation?).foldl (fun current operation => operation.apply rs current) rs ∧
      ∀ ending : Ending, ((CommandLine.typeLines start ending lines).endsIn .nothing files).1 =
        ((crash? run).elim (.ok ()) fun c => .error (.crashed c),
          .ofOutput (String.join (run.map (·.reply.output)) ++ if run.all (·.reply.goesOn) then ending.text else "")) := by
  intro start run
  refine ⟨?_, ?_, ?_, current_pipelineAfter start files lines, fun ending => ?_⟩
  · intro e he
    obtain ⟨hafter, hsource, hsettings⟩ := after_of_mem_events e he
    rw [hafter, Operation.source_perform, Operation.settings_perform]
    exact ⟨hsource, hsettings⟩
  · intro e he h
    obtain ⟨hafter, -, -⟩ := after_of_mem_events e he
    have hnone : e.operation? = none := by
      rcases h with ⟨error, herror⟩ | ⟨c, hparse, hquestion⟩
      · exact lineOperation?_of_failed herror
      · rw [Event.operation?, lineOperation?, hparse]
        exact Command.operation?_of_isQuestion hquestion e.files
    rw [hafter, hnone]
    rfl
  · intro e he hreset
    obtain ⟨hafter, hsource, -⟩ := after_of_mem_events e he
    have hop : e.operation? = some .reset := by
      rw [Event.operation?, lineOperation?, hreset]
      rfl
    rw [hafter, hop]
    exact hsource
  · rw [endsIn_typeLines]
    simp only [CommandLine.Printed.nothing, CommandLine.Printed.ofOutput, String.empty_append]
    rfl

end

/-- A session with a join that finds no file, a filter, a join that finds its file, and a line
that is no command. What is typed behind `exit` is not read. -/
theorem session_keeps_pipeline_with_failures :
    let rs : Dataset := [⟨[("k", .number (.finite .one))]⟩, ⟨[("k", .text "x")]⟩]
    let start := Pipeline.ofDataset rs .standard
    let d : Directory := ⟨[("f.json", "[\x7b\"k\": true, \"v\": \"a\"\x7d]".toUTF8)]⟩
    let run := events start d
      ["join g.json k = k", "where k = 1", "join f.json k = k left f", "nonsense", "count", "exit", "reset"]
    run.length = 6 ∧
      (pipelineAfter start run).current =
        [⟨[("k", .number (.finite .one)), ("f.k", .bool true), ("f.v", .text "a")]⟩] ∧
      ∃ e ∈ run, e.line = "join g.json k = k" ∧ e.Failed ∧ e.after.current = e.before.current ∧
        e.after.source = rs := by
  intro rs start d run
  obtain ⟨hkept, hcurrent, -, hfinal, -⟩ := session_keeps_pipeline rs .standard d
    ["join g.json k = k", "where k = 1", "join f.json k = k left f", "nonsense", "count", "exit", "reset"]
  let first : Event Directory := ⟨"join g.json k = k", d, start, ((runLine start "join g.json k = k").runOn d).1⟩
  have hmem : first ∈ run := by
    show _ ∈ events _ _ _
    rw [events]
    exact List.mem_cons_self
  have hfailed : first.Failed := by
    have hparse : Command.parse "join g.json k = k" = .ok (.join "g.json" "k" "=" "k" .inner none) := by
      decide +kernel
    have hnone : ((Dataset.load "g.json").runOn d).1.toOption.isNone = true := by decide +kernel
    unfold Event.Failed
    dsimp only [first]
    rw [carryOut_of_ok hparse, Command.run, Job.endsIn_bind, Job.endsIn_ofFiles]
    cases hload : ((Dataset.load "g.json").runOn d).1 with
    | error e => exact ⟨_, rfl⟩
    | ok foreign =>
      rw [hload] at hnone
      cases hnone
  refine ⟨by decide +kernel, ?_, first, hmem, rfl, hfailed, hcurrent _ hmem (.inl hfailed), (hkept _ hmem).1⟩
  rw [hfinal]
  decide +kernel

end RowQuery.Shell
