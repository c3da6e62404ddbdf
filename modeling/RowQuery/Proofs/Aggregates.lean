import RowQuery.Proofs.Extrema
import Mathlib.Data.List.Dedup
/-!
# Aggregates answer the last requests

The results of a list of requests are built one request at a time, and a column that is asked for
again goes to the end with its new value (`Dataset.aggregate_concat`). So the results are in the order
of the last requests, one for each column, and the requests for a column alone decide its entry. A
value is what its function makes of the column as a whole (`AggregateFunction.Yields`), said without
the accumulator that goes over it.
-/

namespace RowQuery

/-- Another element at the end is the last one of its kind. -/
theorem dedup_concat {α : Type} [DecidableEq α] (l : List α) (a : α) :
    (l ++ [a]).dedup = (l.dedup.filter fun b => b != a) ++ [a] := by
  induction l with
  | nil => rfl
  | cons b l ih =>
    rw [List.cons_append]
    by_cases hb : b ∈ l
    · rw [List.dedup_cons_of_mem (List.mem_append_left _ hb), List.dedup_cons_of_mem hb, ih]
    by_cases hba : b = a
    · rw [hba, List.dedup_cons_of_mem (by simp), List.dedup_cons_of_notMem (hba ▸ hb), ih]
      simp
    · rw [List.dedup_cons_of_notMem (by simp [hb, hba]), List.dedup_cons_of_notMem hb, ih]
      simp [hba]

/-! ## What a function yields -/

namespace AggregateFunction

/-- The value that a function has for the values of a column, in their order. -/
def Yields (f : AggregateFunction) (vs : List Value) (v : Value) : Prop :=
  match f with
  | count => v = .number (.ofNat vs.length)
  | sum => v = .number (total vs)
  | average => v = .number (if vs = [] then .zero else total vs / .ofNat vs.length)
  | minimum => (vs = [] ∧ v = .null) ∨ IsFirstLeast (Value.compareIn .ascending) vs v
  | maximum => (vs = [] ∧ v = .null) ∨ IsFirstLeast (Value.compareIn .descending) vs v

theorem yields_iff (f : AggregateFunction) (vs : List Value) (v : Value) :
    f.Yields vs v ↔ v = (Accumulator.empty.addAll vs).result f := by
  have h := Accumulator.summarizes_addAll vs
  cases f with
  | count => rw [Yields, Accumulator.result, h.count]
  | sum => rw [Yields, Accumulator.result, h.sum]
  | average => simp only [Yields, Accumulator.result, h.count, h.sum, List.length_eq_zero_iff]
  | minimum => exact (Accumulator.eq_result_extremum_iff .ascending vs v).symm
  | maximum => exact (Accumulator.eq_result_extremum_iff .descending vs v).symm

/-- The name of a function is its word in any letter case, white space around it aside. -/
theorem ofName?_eq_some_iff {name : String} {f : AggregateFunction} :
    ofName? name = some f ↔ Text.isKeyword f.name (Text.trim name.toList) = true := by
  rw [ofName?]
  generalize Text.trim name.toList = word
  constructor
  · exact List.find?_some
  · intro h
    have hword : Text.upperAscii word = f.name.toList := by simpa [Text.isKeyword] using h
    cases f <;> simp [Text.isKeyword, hword, AggregateFunction.name]

end AggregateFunction

namespace Dataset

variable {rs : Dataset} {fields : List (String × String)} {column name : String} {v : Value}

/-- The value that a request asks for: what the function of that name yields on the column, where
a record without it has null, and null if no function has the name. -/
def Answers (rs : Dataset) (column name : String) (v : Value) : Prop :=
  match AggregateFunction.ofName? name with
  | some f => f.Yields (rs.map (·.resolve column)) v
  | none => v = .null

theorem answers_iff : rs.Answers column name v ↔ v = rs.aggregateColumn column name := by
  rw [Answers, aggregateColumn]
  cases AggregateFunction.ofName? name with
  | none => rfl
  | some f => exact f.yields_iff _ _

/-! ## The list of results -/

/-- One request more: its column leaves its place, if it has one, and comes last. -/
theorem aggregate_concat (rs : Dataset) (fields : List (String × String)) (column name : String) :
    rs.aggregate (fields ++ [(column, name)]) =
      ((rs.aggregate fields).filter fun entry => entry.1 != column) ++ [(column, rs.aggregateColumn column name)] := by
  rw [aggregate, List.foldl_append]
  rfl

theorem columns_aggregate (rs : Dataset) (fields : List (String × String)) :
    (rs.aggregate fields).map (·.1) = (fields.map (·.1)).dedup := by
  induction fields using List.reverseRecOn with
  | nil => rfl
  | append_singleton fields field ih =>
    rw [aggregate_concat, List.map_append, List.map_append, List.map_singleton, List.map_singleton, dedup_concat,
      ← ih, List.filter_map]
    rfl

theorem mem_aggregate_iff :
    (column, v) ∈ rs.aggregate fields ↔ ∃ name,
      (fields.filter (·.1 == column)).getLast? = some (column, name) ∧ v = rs.aggregateColumn column name := by
  induction fields using List.reverseRecOn with
  | nil => simp [aggregate]
  | append_singleton fields field ih =>
    obtain ⟨other, function⟩ := field
    rw [aggregate_concat, List.mem_append, List.mem_filter, ih, List.filter_append]
    by_cases hcolumn : other = column
    · subst hcolumn
      simp
    · simp [hcolumn, Ne.symm hcolumn]

/-- Requests for other columns leave no trace in the entries of a column. -/
theorem filter_aggregate (rs : Dataset) (fields : List (String × String)) (column : String) :
    (rs.aggregate fields).filter (·.1 == column) = rs.aggregate (fields.filter (·.1 == column)) := by
  induction fields using List.reverseRecOn with
  | nil => rfl
  | append_singleton fields field ih =>
    obtain ⟨other, function⟩ := field
    rw [aggregate_concat, List.filter_append, List.filter_append, List.filter_comm, ih]
    by_cases hcolumn : other = column
    · subst hcolumn
      rw [List.filter_cons_of_pos (by simp), List.filter_cons_of_pos (by simp), List.filter_nil, List.filter_nil,
        aggregate_concat]
    · -- The entry of the other column is not there to be taken out.
      have hkept : ∀ entry ∈ rs.aggregate (fields.filter (·.1 == column)), (entry.1 != other) = true := by
        intro entry hentry
        rw [← ih] at hentry
        have hname : entry.1 = column := by simpa using (List.mem_filter.1 hentry).2
        simp [hname, Ne.symm hcolumn]
      rw [List.filter_eq_self.2 hkept]
      simp [hcolumn]

end Dataset

/-- **Aggregates answer the last requests.** There is one entry for each column that is asked for, in
the order of the last requests (of equal names, `dedup` keeps the last). An entry has the value that
the last request for its column asks for. The entries of a column are those that the requests for it
alone would give. The name of a function is read in any letter case and without the white space
around it. -/
theorem aggregate_answers_last_requests (rs : Dataset) (fields : List (String × String)) :
    (rs.aggregate fields).map (·.1) = (fields.map (·.1)).dedup ∧
      (∀ column v, (column, v) ∈ rs.aggregate fields ↔ ∃ name,
        (fields.filter (·.1 == column)).getLast? = some (column, name) ∧ rs.Answers column name v) ∧
      (∀ column, (rs.aggregate fields).filter (·.1 == column) = rs.aggregate (fields.filter (·.1 == column))) ∧
      ∀ name f, AggregateFunction.ofName? name = some f ↔ Text.isKeyword f.name (Text.trim name.toList) = true := by
  refine ⟨rs.columns_aggregate fields, fun column v => ?_, rs.filter_aggregate fields,
    fun _ _ => AggregateFunction.ofName?_eq_some_iff⟩
  simp only [Dataset.mem_aggregate_iff, Dataset.answers_iff]

example : Dataset.aggregate [⟨[("a", .text "2"), ("b", .text "x")]⟩, ⟨[("b", .null)]⟩]
    [("a", "sum"), ("b", "COUNT"), ("a", " Avg "), ("c", "MEDIAN")] =
      [("b", .number (.ofNat 2)), ("a", .number (.finite .one)), ("c", .null)] := by
  decide +kernel

end RowQuery
