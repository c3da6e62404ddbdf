import RowQuery.Proofs.Columns
import RowQuery.Proofs.NestedLoop
/-!
# Filters on local columns commute with joins

A joined record resolves a name that no foreign column takes just as the local record did that
it comes from, whether it was merged or padded (`Join.resolve_of_mem_nestedRows`). So a
condition on such names holds of all results for a local record or of none, and the local
records may as well be filtered before they are joined.
-/

namespace RowQuery

/-! ## What a condition looks at -/

theorem Comparison.holds_congr {c : Comparison} {r s : Record} (h : r.resolve c.column = s.resolve c.column) :
    c.holds r = c.holds s := by
  rw [holds, holds, h]

/-- A condition looks at the columns of its comparisons only. -/
theorem Condition.holds_congr {c : Condition} {r s : Record}
    (h : ∀ comparison ∈ c.comparisons, r.resolve comparison.column = s.resolve comparison.column) :
    c.holds r = c.holds s := by
  have hresults : (c.comparisons.map fun comparison => comparison.holds r) =
      c.comparisons.map fun comparison => comparison.holds s :=
    List.map_congr_left fun comparison hmem => Comparison.holds_congr (h comparison hmem)
  rw [holds, holds, hresults]

/-! ## What a join leaves alone -/

namespace Join

variable {j : Join} {l : Record} {column : String}

theorem resolve_merge {f : Record} (h : ∀ name ∈ f.columns, column ≠ j.qualify name) :
    (j.merge l f).resolve column = l.resolve column := by
  refine Record.resolve_setAll_of_not_mem fun hmem => ?_
  rw [List.map_map] at hmem
  obtain ⟨entry, hentry, rfl⟩ := List.mem_map.1 hmem
  exact h entry.1 (List.mem_map_of_mem hentry) rfl

theorem resolve_padWithNulls (h : ∀ f ∈ j.foreign, ∀ name ∈ f.columns, column ≠ j.qualify name) :
    (j.padWithNulls l).resolve column = l.resolve column := by
  rw [padWithNulls]
  cases hforeign : j.foreign with
  | nil => rfl
  | cons f rest =>
    refine Record.resolve_setAll_of_not_mem fun hmem => ?_
    rw [List.map_map] at hmem
    obtain ⟨name, hname, rfl⟩ := List.mem_map.1 hmem
    exact h f (hforeign ▸ List.mem_cons_self) name hname rfl

/-- A result for a local record is that record in every column whose name no foreign column
takes. -/
theorem resolve_of_mem_nestedRows (h : ∀ f ∈ j.foreign, ∀ name ∈ f.columns, column ≠ j.qualify name) :
    ∀ r ∈ j.nestedRows l, r.resolve column = l.resolve column := by
  intro r hr
  rw [nestedRows] at hr
  split at hr
  · obtain rfl := List.mem_singleton.1 hr
    exact resolve_padWithNulls h
  · obtain ⟨f, hf, rfl⟩ := List.mem_map.1 hr
    exact resolve_merge (h f (List.mem_filter.1 hf).1)

end Join

/-! ## The law -/

/-- A test that goes alike for all that a record expands to can be made before the expansion. -/
theorem filter_flatMap_of_uniform {test : Record → Bool} {expand : Record → Dataset} (rs : Dataset)
    (h : ∀ l, ∀ r ∈ expand l, test r = test l) :
    (rs.flatMap expand).filter test = (rs.filter test).flatMap expand := by
  induction rs with
  | nil => rfl
  | cons l rs ih =>
    rw [List.flatMap_cons, List.filter_append, ih]
    cases hl : test l with
    | true =>
      rw [List.filter_cons_of_pos hl, List.flatMap_cons, List.filter_eq_self.2 fun r hr => (h l r hr).trans hl]
    | false =>
      have hnone : (expand l).filter test = [] :=
        List.filter_eq_nil_iff.2 fun r hr htrue => by simp [h l r hr, hl] at htrue
      rw [hnone, List.filter_cons_of_neg (by simp [hl]), List.nil_append]

/-- **Filters on local columns commute with joins.** As long as no column that the condition
compares is the name of a foreign column in the result, filtering and then joining gives the
same records in the same order as joining and then filtering. -/
theorem filter_join_comm (p : Pipeline) (j : Join) (c : Condition)
    (h : ∀ comparison ∈ c.comparisons, ∀ f ∈ j.foreign, ∀ name ∈ f.columns,
      comparison.column ≠ j.qualify name) :
    (p.filterBy c).join j = (p.join j).filterBy c := by
  have huniform : ∀ l, ∀ r ∈ j.nestedRows l, c.holds r = c.holds l := by
    intro l r hr
    refine Condition.holds_congr fun comparison hmem => ?_
    exact Join.resolve_of_mem_nestedRows (h comparison hmem) r hr
  have hcurrent : Dataset.join (p.current.filter c.holds) j = (p.current.join j).filter c.holds := by
    rw [Dataset.join_eq_flatMap, Dataset.join_eq_flatMap, filter_flatMap_of_uniform _ huniform]
  rw [Pipeline.join, Pipeline.filterBy, Pipeline.advance, Pipeline.advance]
  exact congrArg (fun rs : Dataset => { p with current := rs }) hcurrent

/-- A left join with a local column whose name looks like that of a foreign one. One record does
not match, and one is found by two foreign records. -/
theorem filter_join_comm_beside_dotted_name :
    let j : Join :=
      { foreign := [⟨[("id", .number (.finite .one)), ("v", .text "a")]⟩, ⟨[("id", .text "1.0"), ("w", .null)]⟩]
        localKey := "k", foreignKey := "id", kind := .left, alias? := some "f" }
    let p : Pipeline := .ofDataset
      [⟨[("k", .number (.finite .one)), ("f.x", .text "a")]⟩, ⟨[("k", .text "2"), ("f.x", .text "b")]⟩,
        ⟨[("k", .bool true)]⟩] .standard
    let c := Condition.parse "f.x != ? and k > 0" [.text "a"]
    (p.filterBy c).join j = (p.join j).filterBy c ∧
      ((p.join j).filterBy c).current =
        [⟨[("k", .text "2"), ("f.x", .text "b"), ("f.id", .null), ("f.v", .null)]⟩,
          ⟨[("k", .bool true), ("f.id", .number (.finite .one)), ("f.v", .text "a")]⟩,
          ⟨[("k", .bool true), ("f.id", .text "1.0"), ("f.w", .null)]⟩] := by
  intro j p c
  have hlocal : ∀ comparison ∈ c.comparisons, ∀ f ∈ j.foreign, ∀ name ∈ f.columns,
      comparison.column ≠ j.qualify name := by
    decide +kernel
  exact ⟨filter_join_comm p j c hlocal, by decide +kernel⟩

end RowQuery
