import RowQuery.Record
/-!
# Setting columns

What setting columns makes of a record. A column that is there stays where it is, new ones come
last in the order in which they are set (`Record.columns_setAll`), and each has the value that it
was set to.
-/

namespace RowQuery

theorem map_fst_setEntry_of_mem {α : Type} {name : String} (value : α) {entries : List (String × α)}
    (h : name ∈ entries.map (·.1)) : (setEntry name value entries).map (·.1) = entries.map (·.1) := by
  induction entries with
  | nil => exact absurd h List.not_mem_nil
  | cons entry entries ih =>
    rw [setEntry]
    by_cases hentry : entry.1 = name
    · rw [if_pos hentry, List.map_cons, List.map_cons, hentry]
    · rw [List.map_cons, List.mem_cons] at h
      rw [if_neg hentry, List.map_cons, List.map_cons, ih (h.resolve_left (Ne.symm hentry))]

namespace Record

/-- The columns after a name has been set: one that is not there comes last. -/
def addColumn (columns : List String) (name : String) : List String :=
  if name ∈ columns then columns else columns ++ [name]

/-- The columns after names have been set one after the other. -/
def addColumns (columns names : List String) : List String := names.foldl addColumn columns

/-- Names without repeats are added where they are not there. -/
theorem addColumns_of_nodup (columns : List String) {names : List String} (h : names.Nodup) :
    addColumns columns names = columns ++ names.filter fun name => name ∉ columns := by
  induction names generalizing columns with
  | nil => exact (List.append_nil columns).symm
  | cons name names ih =>
    obtain ⟨hname, hnames⟩ := List.nodup_cons.1 h
    rw [addColumns, List.foldl_cons, ← addColumns, ih _ hnames, addColumn]
    by_cases hmem : name ∈ columns
    · rw [if_pos hmem, List.filter_cons_of_neg (by simpa using hmem)]
    · -- The name is there now, and it is not added again.
      have hfilter : (names.filter fun other => other ∉ columns ++ [name]) =
          names.filter fun other => other ∉ columns := by
        refine List.filter_congr fun other hother => ?_
        have hne : other ≠ name := by
          rintro rfl
          exact hname hother
        simp [hne]
      rw [if_neg hmem, hfilter, List.filter_cons_of_pos (by simpa using hmem), List.append_assoc]
      rfl

variable {r : Record} {column : String}

theorem columns_set_of_mem (h : column ∈ r.columns) (value : Value) : (r.set column value).columns = r.columns :=
  map_fst_setEntry_of_mem value h

theorem columns_set_of_not_mem (h : column ∉ r.columns) (value : Value) :
    (r.set column value).columns = r.columns ++ [column] := by
  rw [columns, set, setEntry_of_not_mem value h, List.map_append]
  rfl

theorem setAll_cons (r : Record) (entry : String × Value) (entries : List (String × Value)) :
    r.setAll (entry :: entries) = (r.set entry.1 entry.2).setAll entries := rfl

theorem columns_set (r : Record) (column : String) (value : Value) :
    (r.set column value).columns = addColumn r.columns column := by
  by_cases h : column ∈ r.columns
  · rw [columns_set_of_mem h, addColumn, if_pos h]
  · rw [columns_set_of_not_mem h, addColumn, if_neg h]

/-- The columns depend on the names that are set, and not on the values. -/
theorem columns_setAll_eq (r : Record) (entries : List (String × Value)) :
    (r.setAll entries).columns = addColumns r.columns (entries.map (·.1)) := by
  induction entries generalizing r with
  | nil => rfl
  | cons entry entries ih =>
    rw [setAll_cons, ih, columns_set]
    rfl

/-- The columns that are there, and behind them the new ones in their order. -/
theorem columns_setAll (r : Record) {entries : List (String × Value)} (h : (entries.map (·.1)).Nodup) :
    (r.setAll entries).columns = r.columns ++ (entries.map (·.1)).filter fun name => name ∉ r.columns := by
  rw [columns_setAll_eq, addColumns_of_nodup _ h]

theorem get?_setAll_of_not_mem {entries : List (String × Value)} (h : column ∉ entries.map (·.1)) :
    (r.setAll entries).get? column = r.get? column := by
  induction entries generalizing r with
  | nil => rfl
  | cons entry entries ih =>
    rw [List.map_cons, List.mem_cons, not_or] at h
    rw [setAll_cons, ih h.2, get?_set, if_neg (Ne.symm h.1)]

/-- Setting columns leaves every other column as it was. -/
theorem resolve_setAll_of_not_mem {entries : List (String × Value)} (h : column ∉ entries.map (·.1)) :
    (r.setAll entries).resolve column = r.resolve column := by
  rw [resolve, get?_setAll_of_not_mem h, resolve]

theorem get?_setAll_of_mem {entries : List (String × Value)} (h : (entries.map (·.1)).Nodup) {value : Value}
    (hmem : (column, value) ∈ entries) : (r.setAll entries).get? column = some value := by
  induction entries generalizing r with
  | nil => exact absurd hmem List.not_mem_nil
  | cons entry entries ih =>
    obtain ⟨hentry, hentries⟩ := List.nodup_cons.1 h
    rw [setAll_cons]
    rcases List.mem_cons.1 hmem with rfl | hmem
    · rw [get?_setAll_of_not_mem hentry, get?_set, if_pos rfl]
    · exact ih hentries hmem

theorem mem_of_get? {value : Value} (h : r.get? column = some value) : (column, value) ∈ r.entries := by
  obtain ⟨entry, hentry, rfl⟩ := Option.map_eq_some_iff.1 h
  have hname : entry.1 = column := by simpa using List.find?_some hentry
  exact hname ▸ List.mem_of_find?_eq_some hentry

end Record

end RowQuery
