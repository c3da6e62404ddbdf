import RowQuery.Proofs.Columns
import RowQuery.Proofs.Grid
import RowQuery.Proofs.NestedLoop
/-!
# Joins of uniform data

Records of one shape joined with records of one shape are records of one shape again
(`join_keeps_uniform`). A merged row and a padded one set the same names in the same order, and
the columns of a row depend on nothing else. The header of a table is taken from the first row
alone, so a table of joined records has every column of every row.
-/

namespace RowQuery

/-- All records have the same columns in the same order. -/
def Dataset.HasColumns (rs : Dataset) (columns : List String) : Prop := ∀ r ∈ rs, r.columns = columns

instance (rs : Dataset) (columns : List String) : Decidable (rs.HasColumns columns) :=
  inferInstanceAs (Decidable (∀ r ∈ rs, r.columns = columns))

/-! ## Rows of a join -/

namespace Join

/-- The columns of a joined row, given those of the local record: the first foreign record says
which ones are set. -/
def joinedColumns (j : Join) (columns : List String) : List String :=
  match j.foreign with
  | [] => columns
  | f :: _ => Record.addColumns columns (f.columns.map j.qualify)

variable {j : Join} {l f : Record}

theorem columns_merge (j : Join) (l f : Record) :
    (j.merge l f).columns = Record.addColumns l.columns (f.columns.map j.qualify) := by
  rw [merge, Record.columns_setAll_eq, Record.columns, Record.columns, List.map_map, List.map_map]
  rfl

/-- A padded row has the joined columns, whether there is a foreign record or not. -/
theorem columns_padWithNulls (j : Join) (l : Record) : (j.padWithNulls l).columns = j.joinedColumns l.columns := by
  rw [padWithNulls, joinedColumns]
  cases j.foreign with
  | nil => rfl
  | cons f rest =>
    show (l.setAll (f.columns.map fun column => (j.qualify column, .null))).columns = _
    rw [Record.columns_setAll_eq, List.map_map]
    rfl

/-- A merged row has the joined columns if the foreign record is like the first one. -/
theorem columns_merge_of_hasColumns {columns : List String} (h : j.foreign.HasColumns columns)
    (hf : f ∈ j.foreign) : (j.merge l f).columns = j.joinedColumns l.columns := by
  rw [columns_merge, h f hf, joinedColumns]
  cases hforeign : j.foreign with
  | nil =>
    rw [hforeign] at hf
    cases hf
  | cons first rest =>
    rw [← h first (hforeign ▸ List.mem_cons_self)]

theorem hasColumns_nestedRows {columns : List String} (h : j.foreign.HasColumns columns) :
    Dataset.HasColumns (j.nestedRows l) (j.joinedColumns l.columns) := by
  intro r hr
  rw [nestedRows] at hr
  split at hr
  · obtain rfl := List.mem_singleton.1 hr
    exact j.columns_padWithNulls l
  · obtain ⟨f, hf, rfl⟩ := List.mem_map.1 hr
    exact columns_merge_of_hasColumns h (List.mem_filter.1 hf).1

end Join

namespace Dataset

theorem hasColumns_join {rs : Dataset} {j : Join} {columns foreign : List String} (hlocal : rs.HasColumns columns)
    (hforeign : j.foreign.HasColumns foreign) : (rs.join j).HasColumns (j.joinedColumns columns) := by
  intro r hr
  rw [join_eq_flatMap] at hr
  obtain ⟨l, hl, hr⟩ := List.mem_flatMap.1 hr
  rw [← hlocal l hl]
  exact Join.hasColumns_nestedRows hforeign r hr

/-! ## Tables of uniform data -/

/-- The cells of a record under its own columns. -/
def cells (settings : Settings) (r : Record) : List String :=
  r.columns.map fun column => Csv.cellText settings (r.resolve column)

/-- The table of uniform data has all columns of all records. -/
theorem csvRows_of_hasColumns {rs : Dataset} {columns : List String} (h : rs.HasColumns columns) (settings : Settings) :
    csvRows settings columns rs = columns :: rs.map (cells settings) := by
  rw [csvRows]
  refine congrArg (columns :: ·) (List.map_congr_left fun r hr => ?_)
  rw [cells, h r hr]

theorem csv?_of_hasColumns {rs : Dataset} {columns : List String} (h : rs.HasColumns columns) (hne : rs ≠ [])
    (settings : Settings) :
    csv? settings rs = some ((columns :: rs.map (cells settings)).flatMap fun cells =>
      Csv.row settings.delimiter (cells.map bytesOf)) := by
  cases rs with
  | nil => exact absurd rfl hne
  | cons first others =>
    rw [csv?, h first List.mem_cons_self, csvRows_of_hasColumns h]

/-- The table of uniform data is read back with all columns of all records. -/
theorem read?_csv?_of_hasColumns {rs : Dataset} {columns : List String} (h : rs.HasColumns columns)
    (hcolumns : columns ≠ []) {settings : Settings} (hquote : settings.delimiter ≠ Csv.quote)
    (hfeed : settings.delimiter ≠ Csv.lineFeed) :
    Csv.read? settings.delimiter ((columns :: rs.map (cells settings)).flatMap fun cells =>
      Csv.row settings.delimiter (cells.map bytesOf)) = some (columns :: rs.map (cells settings)) := by
  refine Csv.read?_rows hquote hfeed (List.forall_mem_cons.2 ⟨hcolumns, fun row hrow => ?_⟩)
  obtain ⟨r, hr, rfl⟩ := List.mem_map.1 hrow
  rw [cells, h r hr]
  exact mt List.map_eq_nil_iff.1 hcolumns

end Dataset

/-- **Joins of uniform data are uniform.** If all local records have the same columns and all
foreign records have the same columns, then so have all joined rows, merged or padded. A table of
the result therefore has, under one header, a cell for every column of every row with the text of
its value, and it is read back like this. -/
theorem join_keeps_uniform {rs : Dataset} {j : Join} {columns foreign : List String} (hlocal : rs.HasColumns columns)
    (hforeign : j.foreign.HasColumns foreign) :
    (rs.join j).HasColumns (j.joinedColumns columns) ∧
      ∀ settings : Settings, rs.join j ≠ [] → ∃ bytes, Dataset.csv? settings (rs.join j) = some bytes ∧
        bytes = ((j.joinedColumns columns :: (rs.join j).map (Dataset.cells settings)).flatMap fun cells =>
          Csv.row settings.delimiter (cells.map bytesOf)) ∧
        (j.joinedColumns columns ≠ [] → settings.delimiter ≠ Csv.quote → settings.delimiter ≠ Csv.lineFeed →
          Csv.read? settings.delimiter bytes =
            some (j.joinedColumns columns :: (rs.join j).map (Dataset.cells settings))) := by
  have hjoined := Dataset.hasColumns_join hlocal hforeign
  refine ⟨hjoined, fun settings hne => ⟨_, Dataset.csv?_of_hasColumns hjoined hne settings, rfl, ?_⟩⟩
  exact fun hcolumns hquote hfeed => Dataset.read?_csv?_of_hasColumns hjoined hcolumns hquote hfeed

/-- One record that two foreign ones match and one that none does, with a local column that has the
qualified name of a foreign one. -/
theorem join_keeps_uniform_of_dotted_name :
    let one : Value := .number (.finite .one)
    let j : Join :=
      { foreign := [⟨[("v", .text "a"), ("id", one)]⟩, ⟨[("v", .null), ("id", .text "1.0")]⟩]
        localKey := "k", foreignKey := "id", kind := .left, alias? := some "f" }
    let rs : Dataset := [⟨[("k", .text "2"), ("f.v", .text "x")]⟩, ⟨[("k", .bool true), ("f.v", .text "y")]⟩]
    rs.HasColumns ["k", "f.v"] ∧ j.foreign.HasColumns ["v", "id"] ∧ (rs.join j).HasColumns ["k", "f.v", "f.id"] ∧
      ∃ bytes, Dataset.csv? .standard (rs.join j) = some bytes ∧
        Csv.read? Settings.standard.delimiter bytes =
          some [["k", "f.v", "f.id"], ["2", "", ""], ["true", "a", "1"], ["true", "", "1.0"]] := by
  intro one j rs
  have hlocal : rs.HasColumns ["k", "f.v"] := by decide
  have hforeign : j.foreign.HasColumns ["v", "id"] := by decide
  have hcolumns : j.joinedColumns ["k", "f.v"] = ["k", "f.v", "f.id"] := by decide
  have hrows : (rs.join j).map (Dataset.cells .standard) =
      [["2", "", ""], ["true", "a", "1"], ["true", "", "1.0"]] := by decide +kernel
  obtain ⟨hjoined, htable⟩ := join_keeps_uniform hlocal hforeign
  rw [hcolumns] at hjoined htable
  obtain ⟨bytes, hbytes, -, hread⟩ := htable .standard (by decide +kernel)
  rw [hrows] at hread
  exact ⟨hlocal, hforeign, hjoined, bytes, hbytes, hread (by decide) (by decide) (by decide)⟩

end RowQuery
