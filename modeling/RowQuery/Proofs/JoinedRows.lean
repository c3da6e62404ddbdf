import RowQuery.Proofs.Columns
import RowQuery.Proofs.NestedLoop
/-!
# What a joined row takes from where

A row of a join is a local record in which the columns of a foreign one have been set under their
qualified names, to their values where the two match and to null where the local record has no
match (`Join.Extends`). Everything else in the row is as it was in the local record.
-/

namespace RowQuery

namespace Join

/-- Distinct foreign columns have distinct names in the result. -/
theorem qualify_injective (j : Join) : Function.Injective j.qualify := by
  intro a b h
  unfold qualify at h
  cases halias : j.alias? with
  | none => simpa [halias] using h
  | some name =>
    by_cases hname : name = ""
    · simpa [halias, hname] using h
    · simpa [halias, hname] using h

/-- The row `r` is the local record `l` with the columns of `f` set in it under their qualified
names, to what `value` makes of their values. -/
structure Extends (j : Join) (l f : Record) (value : Value → Value) (r : Record) : Prop where
  /-- The local columns stay in place, and new ones come behind them in the order of `f`. -/
  columns : r.columns = l.columns ++ (f.columns.map j.qualify).filter fun name => name ∉ l.columns
  foreign : ∀ column v, f.get? column = some v → r.get? (j.qualify column) = some (value v)
  others : ∀ name, name ∉ f.columns.map j.qualify → r.get? name = l.get? name

variable {j : Join} {l f : Record}

theorem extends_setAll (h : f.columns.Nodup) (value : Value → Value) :
    j.Extends l f value (l.setAll (f.entries.map fun entry => (j.qualify entry.1, value entry.2))) := by
  have hnames : (f.entries.map fun entry => (j.qualify entry.1, value entry.2)).map (·.1) =
      f.columns.map j.qualify := by
    rw [Record.columns, List.map_map, List.map_map]
    rfl
  have hnodup := h.map j.qualify_injective
  rw [← hnames] at hnodup
  constructor
  · rw [Record.columns_setAll l hnodup, hnames]
  · intro column v hv
    exact Record.get?_setAll_of_mem hnodup (List.mem_map_of_mem (Record.mem_of_get? hv))
  · intro name hname
    rw [← hnames] at hname
    exact Record.get?_setAll_of_not_mem hname

theorem extends_merge (h : f.columns.Nodup) : j.Extends l f id (j.merge l f) :=
  extends_setAll h id

theorem extends_padWithNulls {rest : Dataset} (hforeign : j.foreign = f :: rest) (h : f.columns.Nodup) :
    j.Extends l f (fun _ => .null) (j.padWithNulls l) := by
  have hpad : j.padWithNulls l = l.setAll (f.entries.map fun entry => (j.qualify entry.1, .null)) := by
    rw [padWithNulls, hforeign]
    show l.setAll (f.columns.map fun column => (j.qualify column, .null)) = _
    rw [Record.columns, List.map_map]
    rfl
  rw [hpad]
  exact extends_setAll h fun _ => .null

theorem padWithNulls_of_nil (h : j.foreign = []) : j.padWithNulls l = l := by
  rw [padWithNulls, h]

theorem mem_nestedRows_iff {r : Record} :
    r ∈ j.nestedRows l ↔ (∃ f ∈ j.foreign, j.Matches l f = true ∧ r = j.merge l f) ∨
      j.kind = .left ∧ (∀ f ∈ j.foreign, j.Matches l f = false) ∧ r = j.padWithNulls l := by
  have hnone : (j.foreign.filter (j.Matches l)).map (j.merge l) = [] ↔ ∀ f ∈ j.foreign, j.Matches l f = false := by
    simp
  have hmerged : r ∈ (j.foreign.filter (j.Matches l)).map (j.merge l) ↔
      ∃ f ∈ j.foreign, j.Matches l f = true ∧ r = j.merge l f := by
    simp only [List.mem_map, List.mem_filter, and_assoc]
    exact exists_congr fun f => and_congr_right fun _ => and_congr_right fun _ => eq_comm
  rw [← hnone, ← hmerged, nestedRows]
  generalize (j.foreign.filter (j.Matches l)).map (j.merge l) = merged
  by_cases hpad : merged = [] ∧ j.kind = .left
  · simp [hpad]
  · rw [if_neg hpad]
    constructor
    · exact .inl
    · rintro (hmem | ⟨hkind, hnil, -⟩)
      · exact hmem
      · exact absurd ⟨hnil, hkind⟩ hpad

end Join

/-- **What a joined row takes from where.** A join yields merged rows for the records that match,
and in a left join padded ones for the local records without a match. A merged row is the local
record with all columns of the foreign one set under their qualified names; local columns keep
their places, and new ones come behind them in the foreign order. A padded row is the same for the
first foreign record, with null for its values, and the local record itself if there is no foreign
record. Qualified names are distinct. -/
theorem joined_rows_take_qualified_columns (rs : Dataset) (j : Join) :
    (∀ r, r ∈ rs.join j ↔ ∃ l ∈ rs, (∃ f ∈ j.foreign, j.Matches l f = true ∧ r = j.merge l f) ∨
        j.kind = .left ∧ (∀ f ∈ j.foreign, j.Matches l f = false) ∧ r = j.padWithNulls l) ∧
      (∀ l f : Record, f.columns.Nodup → j.Extends l f id (j.merge l f)) ∧
      (∀ (l f : Record) (rest : Dataset), j.foreign = f :: rest → f.columns.Nodup →
        j.Extends l f (fun _ => .null) (j.padWithNulls l)) ∧
      (∀ l : Record, j.foreign = [] → j.padWithNulls l = l) ∧
      ∀ column other : String, column ≠ other → j.qualify column ≠ j.qualify other := by
  refine ⟨fun r => ?_, fun l f h => Join.extends_merge h, fun l f rest hforeign h => Join.extends_padWithNulls hforeign h,
    fun l h => Join.padWithNulls_of_nil h, fun column other hne => j.qualify_injective.ne hne⟩
  rw [Dataset.join_eq_flatMap, List.mem_flatMap]
  exact exists_congr fun l => and_congr_right fun _ => Join.mem_nestedRows_iff

/-- A local column with the qualified name of a foreign one, in a record that has a match and in one
that has none. -/
theorem joined_rows_take_qualified_columns_of_dotted_name :
    let one : Value := .number (.finite .one)
    let f : Record := ⟨[("id", one), ("v", .text "new")]⟩
    let j : Join :=
      { foreign := [f, ⟨[("w", .null), ("v", .bool true)]⟩], localKey := "k", foreignKey := "id", kind := .left
        alias? := some "f" }
    let l : Record := ⟨[("f.v", .text "old"), ("k", .text "1.0")]⟩
    let m : Record := ⟨[("f.v", .text "old"), ("k", .text "2"), ("v", one)]⟩
    let merged : Record := ⟨[("f.v", .text "new"), ("k", .text "1.0"), ("f.id", one)]⟩
    let padded : Record := ⟨[("f.v", .null), ("k", .text "2"), ("v", one), ("f.id", .null)]⟩
    f.columns.Nodup ∧ Dataset.join [l, m] j = [merged, padded] ∧ merged ∈ Dataset.join [l, m] j ∧
      j.Extends l f id merged ∧ j.Extends m f (fun _ => .null) padded ∧ j.qualify "v" ≠ j.qualify "f.v" := by
  intro one f j l m merged padded
  obtain ⟨hrows, hmerge, hpad, -, hqualify⟩ := joined_rows_take_qualified_columns [l, m] j
  have hnodup : f.columns.Nodup := by decide
  have hmerged : j.merge l f = merged := by decide
  have hpadded : j.padWithNulls m = padded := by decide
  refine ⟨hnodup, by decide +kernel, ?_, ?_, ?_, hqualify "v" "f.v" (by decide)⟩
  · exact (hrows merged).2 ⟨l, by simp, .inl ⟨f, by simp [j], by decide +kernel, hmerged.symm⟩⟩
  · exact hmerged ▸ hmerge l f hnodup
  · exact hpadded ▸ hpad m f _ rfl hnodup

end RowQuery
