import RowQuery.Proofs.FirstSeen
import RowQuery.Proofs.Sessions
/-!
# Records are maps

A record that is made by setting columns has each column once, where it was first set, and with the
value that it was last set to (`Record.isMapOf_ofList`). Nothing makes a record in another way: data
is loaded by setting columns, a joined row is a local record with more columns set, and a projection
only takes columns away. So in every pipeline that steps lead to, and in every session on loaded
data, no record has two columns of one name (`records_are_maps`).
-/

namespace RowQuery

namespace Record

/-! ## Columns set one after the other -/

/-- The last of the entries for a name sets it to `v`. -/
def SetLast (entries : List (String × Value)) (name : String) (v : Value) : Prop :=
  ∃ before after, entries = before ++ (name, v) :: after ∧ name ∉ after.map (·.1)

/-- The record is a map from names to values, and entries set one after the other say which one. -/
structure IsMapOf (r : Record) (entries : List (String × Value)) : Prop where
  /-- Each name that was set is there once, in the place of its first entry. -/
  columns : FirstSeen r.columns (entries.map (·.1))
  some_iff : ∀ name v, r.get? name = some v ↔ SetLast entries name v
  none_iff : ∀ name, r.get? name = none ↔ name ∉ entries.map (·.1)
  /-- There are as many columns as there are different names. -/
  size : r.size = (entries.map (·.1)).toFinset.card

variable {r : Record} {entries : List (String × Value)} {name : String} {v : Value}

theorem setAll_append (r : Record) (entries more : List (String × Value)) :
    r.setAll (entries ++ more) = (r.setAll entries).setAll more :=
  congrArg mk List.foldl_append

theorem setAll_eq_foldl (r : Record) (entries : List (String × Value)) :
    r.setAll entries = entries.foldl (fun r entry => r.set entry.1 entry.2) r := by
  induction entries generalizing r with
  | nil => rfl
  | cons entry entries ih => rw [setAll_cons, ih, List.foldl_cons]

theorem exists_setLast (h : name ∈ entries.map (·.1)) : ∃ v, SetLast entries name v := by
  induction entries with
  | nil => exact absurd h List.not_mem_nil
  | cons entry entries ih =>
    by_cases hlater : name ∈ entries.map (·.1)
    · obtain ⟨v, before, after, rfl, hafter⟩ := ih hlater
      exact ⟨v, entry :: before, after, rfl, hafter⟩
    · obtain rfl := (List.mem_cons.1 h).resolve_right hlater
      exact ⟨entry.2, [], entries, rfl, hlater⟩

/-- The last entry for a name decides, whatever the record was before. -/
theorem get?_setAll_of_setLast (r : Record) (h : SetLast entries name v) : (r.setAll entries).get? name = some v := by
  obtain ⟨before, after, rfl, hafter⟩ := h
  rw [setAll_append, setAll_cons, get?_setAll_of_not_mem hafter, get?_set, if_pos rfl]

theorem columns_ofList (entries : List (String × Value)) :
    (ofList entries).columns = addColumns [] (entries.map (·.1)) :=
  columns_setAll_eq empty entries

theorem get?_ofList_of_mem (h : name ∈ entries.map (·.1)) :
    ∃ v, SetLast entries name v ∧ (ofList entries).get? name = some v := by
  obtain ⟨v, hlast⟩ := exists_setLast h
  exact ⟨v, hlast, get?_setAll_of_setLast empty hlast⟩

theorem get?_ofList_eq_none : (ofList entries).get? name = none ↔ name ∉ entries.map (·.1) := by
  refine ⟨fun h hname => ?_, fun hname => get?_setAll_of_not_mem hname⟩
  obtain ⟨v, -, hsome⟩ := get?_ofList_of_mem hname
  rw [hsome] at h
  cases h

theorem get?_ofList_eq_some : (ofList entries).get? name = some v ↔ SetLast entries name v := by
  refine ⟨fun h => ?_, get?_setAll_of_setLast empty⟩
  have hname : name ∈ entries.map (·.1) := by
    by_contra hname
    rw [get?_ofList_eq_none.2 hname] at h
    cases h
  obtain ⟨last, hlast, hsome⟩ := get?_ofList_of_mem hname
  rw [hsome] at h
  exact Option.some.inj h ▸ hlast

theorem isMapOf_ofList (entries : List (String × Value)) : (ofList entries).IsMapOf entries := by
  have hcolumns : FirstSeen (ofList entries).columns (entries.map (·.1)) := by
    rw [columns_ofList]
    exact firstSeen_addColumns _
  refine ⟨hcolumns, fun _ _ => get?_ofList_eq_some, fun _ => get?_ofList_eq_none, ?_⟩
  calc (ofList entries).size
      = (ofList entries).columns.length := (List.length_map _).symm
    _ = (ofList entries).columns.toFinset.card := (List.toFinset_card_of_nodup hcolumns.nodup).symm
    _ = (entries.map (·.1)).toFinset.card := congrArg Finset.card (List.toFinset.ext hcolumns.mem_iff)

/-! ## Records made of others -/

theorem nodup_columns_set (h : r.columns.Nodup) (column : String) (value : Value) :
    (r.set column value).columns.Nodup := by
  rw [columns_set, addColumn]
  split
  next => exact h
  next hcolumn =>
    rw [← List.concat_eq_append]
    exact (List.nodup_concat _ _).2 ⟨hcolumn, h⟩

/-- Setting columns makes no column a second time. -/
theorem nodup_columns_setAll (h : r.columns.Nodup) (entries : List (String × Value)) :
    (r.setAll entries).columns.Nodup := by
  induction entries generalizing r with
  | nil => exact h
  | cons entry entries ih => exact ih (nodup_columns_set h entry.1 entry.2)

theorem nodup_columns_ofList (entries : List (String × Value)) : (ofList entries).columns.Nodup :=
  (isMapOf_ofList entries).columns.nodup

theorem nodup_columns_restrict (h : r.columns.Nodup) (names : List String) : (r.restrict names).columns.Nodup :=
  h.sublist (List.filter_sublist.map _)

theorem nodup_columns_ofJson {j : Json} (h : ofJson j = .ok r) : r.columns.Nodup := by
  cases j with
  | object entries =>
    obtain rfl := Except.ok.inj h
    exact nodup_columns_ofList _
  | _ => cases h

end Record

namespace Join

theorem nodup_columns_merge {l : Record} (h : l.columns.Nodup) (j : Join) (f : Record) : (j.merge l f).columns.Nodup :=
  Record.nodup_columns_setAll h _

theorem nodup_columns_padWithNulls {l : Record} (h : l.columns.Nodup) (j : Join) :
    (j.padWithNulls l).columns.Nodup := by
  rw [padWithNulls]
  cases j.foreign with
  | nil => exact h
  | cons f rest => exact Record.nodup_columns_setAll h _

end Join

/-! ## Datasets -/

/-- What a list of results holds, if no element fails, are results of elements. -/
theorem exists_of_mem_mapM {α β ε : Type} {f : α → Except ε β} {l : List α} {m : List β}
    (h : l.mapM f = .ok m) : ∀ b ∈ m, ∃ a ∈ l, f a = .ok b := by
  induction l generalizing m with
  | nil =>
    obtain rfl := Except.ok.inj h
    simp
  | cons a l ih =>
    rw [List.mapM_cons] at h
    cases hfirst : f a with
    | error e =>
      rw [hfirst] at h
      cases h
    | ok b =>
      cases hrest : l.mapM f with
      | error e =>
        rw [hfirst, hrest] at h
        cases h
      | ok bs =>
        rw [hfirst, hrest] at h
        obtain rfl := Except.ok.inj h
        refine List.forall_mem_cons.2 ⟨⟨a, List.mem_cons_self, hfirst⟩, fun other hother => ?_⟩
        obtain ⟨source, hsource, heq⟩ := ih hrest other hother
        exact ⟨source, List.mem_cons_of_mem _ hsource, heq⟩

/-- No record has two columns of one name. -/
def Dataset.HasDistinctColumns (rs : Dataset) : Prop := ∀ r ∈ rs, r.columns.Nodup

instance (rs : Dataset) : Decidable rs.HasDistinctColumns := inferInstanceAs (Decidable (∀ r ∈ rs, r.columns.Nodup))

namespace Dataset.HasDistinctColumns

variable {rs : Dataset}

theorem project (h : rs.HasDistinctColumns) (projection : Projection) : (rs.project projection).HasDistinctColumns := by
  cases projection with
  | all => exact h
  | columns names =>
    intro r hr
    obtain ⟨s, hs, rfl⟩ := List.mem_map.1 hr
    exact Record.nodup_columns_restrict (h s hs) names

theorem filterBy (h : rs.HasDistinctColumns) (c : Condition) : (rs.filterBy c).HasDistinctColumns :=
  fun r hr => h r (List.mem_of_mem_filter hr)

theorem sortBy (h : rs.HasDistinctColumns) (column : String) (direction : SortDirection) :
    (rs.sortBy column direction).HasDistinctColumns :=
  fun r hr => h r (List.mem_mergeSort.1 hr)

theorem limit (h : rs.HasDistinctColumns) (count offset : Nat) : (rs.limit count offset).HasDistinctColumns :=
  fun r hr => h r (List.mem_of_mem_drop (List.mem_of_mem_take hr))

/-- The columns of a joined row are distinct if those of the local record are, whatever the foreign records
are like. -/
theorem join (h : rs.HasDistinctColumns) (j : Join) : (rs.join j).HasDistinctColumns := by
  intro r hr
  obtain ⟨l, hl, hrow⟩ := List.mem_flatMap.1 hr
  rw [Join.rowsFor] at hrow
  split at hrow
  · cases hkind : j.kind with
    | inner =>
      rw [hkind] at hrow
      cases hrow
    | left =>
      rw [hkind] at hrow
      obtain rfl := List.mem_singleton.1 hrow
      exact Join.nodup_columns_padWithNulls (h l hl) j
  · obtain ⟨f, -, rfl⟩ := List.mem_map.1 hrow
    exact Join.nodup_columns_merge (h l hl) j f

theorem ofJson {j : Json} (h : Dataset.ofJson j = .ok rs) : rs.HasDistinctColumns := by
  cases j with
  | array items =>
    intro r hr
    obtain ⟨item, -, hitem⟩ := exists_of_mem_mapM h r hr
    exact Record.nodup_columns_ofJson hitem
  | _ => cases h

theorem ofBytes {bytes : ByteArray} (h : Dataset.ofBytes bytes = .ok rs) : rs.HasDistinctColumns := by
  rw [Dataset.ofBytes] at h
  split at h
  next => cases h
  next text htext =>
    rw [ofText] at h
    split at h
    next => cases h
    next j hparse =>
      cases hjson : Dataset.ofJson j with
      | error e =>
        rw [hjson] at h
        cases h
      | ok loaded =>
        rw [hjson] at h
        obtain rfl := Except.ok.inj h
        exact ofJson hjson

/-- What is loaded has distinct columns, whatever the file holds. -/
theorem load {Files : Type} [FileSystem Files] {path : String} {files : Files}
    (h : ((Dataset.load path).runOn files).1 = .ok rs) : rs.HasDistinctColumns := by
  rw [runOn_load] at h
  cases hread : FileSystem.read files path with
  | error e =>
    rw [hread] at h
    cases e <;> cases h
  | ok bytes =>
    rw [hread] at h
    exact ofBytes h

end Dataset.HasDistinctColumns

/-! ## Pipelines -/

namespace Pipeline

/-- The records that the pipeline started from and the current ones have distinct columns. -/
structure HasDistinctColumns (p : Pipeline) : Prop where
  source : p.source.HasDistinctColumns
  current : p.current.HasDistinctColumns

/-- What can be done with a pipeline. -/
inductive Step (p : Pipeline) : Pipeline → Prop where
  | select (names : List String) : Step p (p.select names)
  | filterBy (c : Condition) : Step p (p.filterBy c)
  | sortBy (column : String) (direction : SortDirection) : Step p (p.sortBy column direction)
  | limit (count offset : Nat) : Step p (p.limit count offset)
  | join (j : Join) : Step p (p.join j)
  | reset : Step p p.reset
  | configure (settings : Settings) : Step p { p with settings }

/-- Any number of steps. -/
abbrev Steps : Pipeline → Pipeline → Prop := Relation.ReflTransGen Step

variable {p q : Pipeline}

theorem HasDistinctColumns.step (h : p.HasDistinctColumns) (hstep : p.Step q) : q.HasDistinctColumns := by
  cases hstep with
  | select names => exact ⟨h.source, h.current.project _⟩
  | filterBy c => exact ⟨h.source, h.current.filterBy c⟩
  | sortBy column direction => exact ⟨h.source, h.current.sortBy column direction⟩
  | limit count offset => exact ⟨h.source, h.current.limit count offset⟩
  | join j => exact ⟨h.source, h.current.join j⟩
  | reset => exact ⟨h.source, h.source⟩
  | configure settings => exact ⟨h.source, h.current⟩

theorem HasDistinctColumns.steps (h : p.HasDistinctColumns) (hsteps : p.Steps q) : q.HasDistinctColumns := by
  induction hsteps with
  | refl => exact h
  | tail _ hstep ih => exact ih.step hstep

end Pipeline

/-! ## Sessions -/

namespace Shell

/-- An operation is one step, and no operation is none. -/
theorem Operation.steps_perform (p : Pipeline) (operation? : Option Operation) : p.Steps (perform p operation?) := by
  cases operation? with
  | none => exact .refl
  | some operation =>
    refine .single ?_
    cases operation with
    | filter condition params => exact .filterBy (.parse condition params)
    | select columns => exact .select columns
    | sort column direction => exact .sortBy column direction
    | limit count offset => exact .limit count offset
    | join j => exact .join j
    | reset => exact .reset

/-- The pipelines of a session are led to by steps from the first one. -/
theorem steps_of_mem_events {Files : Type} [FileSystem Files] {p : Pipeline} {files : Files} {lines : List String} :
    ∀ e ∈ events p files lines, p.Steps e.before ∧ p.Steps e.after := by
  induction lines generalizing p files with
  | nil => simp [events]
  | cons line lines ih =>
    have hline : p.Steps ((runLine p line).runOn files).1.pipeline := by
      rw [runLine_pipeline]
      exact Operation.steps_perform p _
    rw [events, List.forall_mem_cons]
    refine ⟨⟨.refl, hline⟩, fun e he => ?_⟩
    split at he
    · obtain ⟨hbefore, hafter⟩ := ih e he
      exact ⟨hline.trans hbefore, hline.trans hafter⟩
    · cases he

end Shell

/-- **Records are maps in the order of their first entries.** Columns that are set one after the other in
the empty record are each there once, in the order in which they were first set, with the value that
they were last set to, and no others are there. To collect entries in a record is to set them like this.
No column is there twice in what is left by a projection, in a merged or padded row of a join, or in
loaded data. So records have distinct columns in all pipelines that steps lead to from such records,
and before and after each line of a session on loaded data. -/
theorem records_are_maps :
    (∀ entries : List (String × Value),
        entries.foldl (fun r entry => r.set entry.1 entry.2) .empty = Record.ofList entries ∧
          (Record.ofList entries).IsMapOf entries) ∧
      (∀ (r : Record) (names : List String), r.columns.Nodup → (r.restrict names).columns.Nodup) ∧
      (∀ (j : Join) (l f : Record), l.columns.Nodup →
        (j.merge l f).columns.Nodup ∧ (j.padWithNulls l).columns.Nodup) ∧
      (∀ (j : Json) (rs : Dataset), Dataset.ofJson j = .ok rs → rs.HasDistinctColumns) ∧
      (∀ (rs : Dataset) (settings : Settings) (p : Pipeline), rs.HasDistinctColumns →
        (Pipeline.ofDataset rs settings).Steps p → p.HasDistinctColumns) ∧
      ∀ (Files : Type) [FileSystem Files] (path : String) (files : Files) (rs : Dataset) (settings : Settings)
        (lines : List String),
        ((Dataset.load path).runOn files).1 = .ok rs → ∀ e ∈ Shell.events (.ofDataset rs settings) files lines,
          e.before.HasDistinctColumns ∧ e.after.HasDistinctColumns := by
  refine ⟨fun entries => ⟨(Record.setAll_eq_foldl _ _).symm, Record.isMapOf_ofList entries⟩,
    fun r names h => Record.nodup_columns_restrict h names,
    fun j l f h => ⟨Join.nodup_columns_merge h j f, Join.nodup_columns_padWithNulls h j⟩,
    fun j rs h => .ofJson h, fun rs settings p h hsteps => ?_, fun Files _ path files rs settings lines hload e he => ?_⟩
  · exact Pipeline.HasDistinctColumns.steps ⟨h, h⟩ hsteps
  · have hstart : (Pipeline.ofDataset rs settings).HasDistinctColumns := ⟨.load hload, .load hload⟩
    obtain ⟨hbefore, hafter⟩ := Shell.steps_of_mem_events e he
    exact ⟨hstart.steps hbefore, hstart.steps hafter⟩

/-- Entries with repeated names and an empty one, a foreign record that sets a column of the local one,
and a file whose records have repeated names. -/
theorem records_are_maps_of_repeated_names :
    let one : Value := .number (.finite .one)
    let entries := [("b", .null), ("a", one), ("b", .text "x"), ("", .null), ("a", .bool true)]
    let r : Record := ⟨[("b", .text "x"), ("a", .bool true), ("", .null)]⟩
    let f : Record := ⟨[("a", one), ("c", .null)]⟩
    let j : Join := { foreign := [f], localKey := "a", foreignKey := "a", kind := .left, alias? := none }
    let p := (Pipeline.ofDataset [r] .standard).join j
    let d : Directory := ⟨[("d.json", "[\x7b\"k\":1,\"v\":\"a\",\"k\":2\x7d]".toUTF8)]⟩
    (Record.ofList entries = r ∧ r.IsMapOf entries) ∧
      (r.restrict ["a", "b", "a"]).columns.Nodup ∧
      (j.merge r f).columns.Nodup ∧
      (p.current = [⟨[("b", .text "x"), ("a", one), ("", .null), ("c", .null)]⟩] ∧ p.HasDistinctColumns) ∧
      ∃ rs, ((Dataset.load "d.json").runOn d).1 = .ok rs ∧
        rs = [⟨[("k", .number (.ofNat 2)), ("v", .text "a")]⟩] ∧
        ∀ e ∈ Shell.events (.ofDataset rs .standard) d ["select v", "join d.json k = k left"],
          e.after.HasDistinctColumns := by
  intro one entries r f j p d
  obtain ⟨hset, hrestrict, hjoin, -, hsteps, hsession⟩ := records_are_maps
  have hr : Record.ofList entries = r := by decide
  have hcolumns : r.columns.Nodup := by decide
  have hdistinct : Dataset.HasDistinctColumns [r] := by decide
  let loaded : Dataset := [⟨[("k", .number (.ofNat 2)), ("v", .text "a")]⟩]
  have hsome : ((Dataset.load "d.json").runOn d).1.toOption = some loaded := by decide +kernel
  have hload : ((Dataset.load "d.json").runOn d).1 = .ok loaded := by
    cases hresult : ((Dataset.load "d.json").runOn d).1 with
    | error e =>
      rw [hresult] at hsome
      cases hsome
    | ok rs =>
      rw [hresult] at hsome
      exact congrArg Except.ok (Option.some.inj hsome)
  refine ⟨⟨hr, hr ▸ (hset entries).2⟩, hrestrict r _ hcolumns, (hjoin j r f hcolumns).1,
    ⟨by decide +kernel, hsteps [r] .standard p hdistinct (.single (.join j))⟩, _, hload, rfl, fun e he => ?_⟩
  exact (hsession Directory "d.json" d _ .standard _ hload e he).2

end RowQuery
