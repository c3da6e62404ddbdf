import RowQuery.Pipeline
import RowQuery.Proofs.Clauses
import RowQuery.Proofs.Lookup
/-!
# Three ways to the records of a value

The records with a given value in a column are found by a condition, by the index of a join
and as a group. The first way goes through text: the value is written as a literal, read
back, and compared by the order of operands. The other two go by keys. All three find the
same records in the same order, since what is read back has the key of the value.
-/

namespace RowQuery

/-! ## A condition of one comparison -/

namespace Clause

/-- The text of a clause has one segment, and so one term. -/
theorem parse_alone (c : Clause) : Condition.parse (String.ofList c.template) [c.param] = ⟨[c.term]⟩ := by
  have hbound : bindFrom .bare c.template [c.param] = c.bound := by
    have h := c.bindFrom_template [] []
    rwa [bindFrom_nil, List.append_nil, List.append_nil] at h
  have hsegments : segmentsFrom .bare c.bound = ⟨c.bound, []⟩ := by
    have h := c.segmentsFrom_bound []
    rwa [segmentsFrom_nil, List.append_nil] at h
  have hterm : Term.ofSegment c.bound = c.term := by
    rw [Term.ofSegment, c.parse?_bound]
    rfl
  rw [Condition.parse_eq, segments, bindParameters, String.toList_ofList, String.toList_ofList, hbound,
    hsegments, Condition.ofSegments, hterm]
  rfl

/-- Filtering by a clause compares the column with the parameter as its text reads. -/
theorem filter_template (c : Clause) (p : Pipeline) :
    (p.filter (String.ofList c.template) [c.param]).current = p.current.filter fun r =>
      c.operator.holds (r.resolve c.column) (.ofUntyped c.param.comparisonText) := by
  rw [Pipeline.filter, c.parse_alone]
  rfl

end Clause

/-! ## The parameter comes back with its key -/

namespace Value

theorem key_text (s : String) :
    (text s).key = match parseNumber s.toList with
      | some x => .number x.rank
      | none => .text s := rfl

/-- Only null changes: it is written as the empty text, which is no null. -/
theorem key_ofUntyped_comparisonText {v : Value} (h : v ≠ null) : (ofUntyped v.comparisonText).key = v.key := by
  have hread := v.parseNumber_comparisonText
  rw [ofUntyped]
  cases hv : v.numeric? with
  | some x =>
    rw [hv] at hread
    obtain ⟨y, hy, hyx⟩ := Option.map_eq_some_iff.1 hread
    rw [hy, key_of_numeric? hv]
    exact congrArg Key.number (FiniteDouble.normalizeZero_inj.1 hyx)
  | none =>
    rw [hv, Option.map_none, Option.map_eq_none_iff] at hread
    rw [hread, key_of_text h hv, key_text, hread]

/-- The operator `=` on a value read back is loose equality with the value. -/
theorem equal_holds_ofUntyped (a : Value) {v : Value} (h : v ≠ null) :
    Operator.equal.holds a (ofUntyped v.comparisonText) = a.looselyEqual v := by
  rw [looselyEqual_eq_key, ← key_ofUntyped_comparisonText h, Bool.eq_iff_iff, decide_eq_true_iff,
    ← compareByKind_eq_iff, ← compareAsOperands_eq_iff]
  simp [Operator.holds, Operator.allows]

end Value

/-- **A condition, an index and a group find the same records.** For a value that is not
null, they are the records with a loosely equal value in the column, in their order; and the
index has as many keys as there are groups. -/
theorem equality_paths_agree (p : Pipeline) {column : String} {v : Value} (hne : column ≠ "")
    (hchars : ∀ c ∈ column.toList, isColumnChar c = true) (hv : v ≠ .null) :
    let rows := p.current.filter fun r => (r.resolve column).looselyEqual v
    (p.filter (column ++ " = ?") [v]).current = rows ∧
      (JoinIndex.build p.current column).lookup v = rows ∧
      ((p.current.groupBy column).get? v).elim [] (·.records) = rows ∧
      (JoinIndex.build p.current column).keyCount = (p.current.groupBy column).size := by
  let c : Clause := ⟨column, .equal, v, hne, hchars⟩
  have htext : column ++ " = ?" = String.ofList c.template := by
    rw [← String.toList_inj, String.toList_append, String.toList_ofList]
    simp [c, Clause.template, Clause.lead, Operator.symbol]
  refine ⟨?_, JoinIndex.lookup_build _ _ _, Grouping.records_get? _ _ _, (Grouping.size_groupBy _ _).symm⟩
  rw [htext]
  refine (c.filter_template p).trans (List.filter_congr fun r _ => ?_)
  exact Value.equal_holds_ofUntyped (r.resolve column) hv

/-- A number is found by text that spells it and by the truth value it stands for, and text
with a quote in it by itself. -/
theorem equality_paths_agree_on_one :
    let rows : Dataset := [⟨[("k", .number (.finite .one))]⟩, ⟨[("k", .text "o'one")]⟩,
      ⟨[("j", .bool true)]⟩, ⟨[("k", .text " 1.0")]⟩, ⟨[("k", .bool true)]⟩]
    let p := Pipeline.ofDataset rows .standard
    let found : Dataset := [⟨[("k", .number (.finite .one))]⟩, ⟨[("k", .text " 1.0")]⟩,
      ⟨[("k", .bool true)]⟩]
    (p.filter ("k" ++ " = ?") [.text "1e0"]).current = found ∧
      (JoinIndex.build rows "k").lookup (.text "1e0") = found ∧
      ((Dataset.groupBy rows "k").get? (.text "1e0")).elim [] (·.records) = found ∧
      (JoinIndex.build rows "k").keyCount = (Dataset.groupBy rows "k").size := by
  intro rows p found
  have hfound : (p.current.filter fun r => (r.resolve "k").looselyEqual (.text "1e0")) = found := by
    decide +kernel
  have hchars : ∀ c ∈ "k".toList, isColumnChar c = true := List.all_eq_true.1 (by decide +kernel)
  have h := equality_paths_agree p (v := .text "1e0") (by decide) hchars (by decide)
  dsimp only at h
  rwa [hfound] at h

end RowQuery
