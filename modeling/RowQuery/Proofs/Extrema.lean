import RowQuery.Dataset.Aggregate
import RowQuery.Proofs.Sorting
/-!
# Extrema are the heads of sorts

The least value of a column is found in one pass, which leaves the value at hand only for one
that is strictly less. So it ends at the first of the least values, and a stable sort begins with
just that one (`StableSort.isFirstLeast_head`). As there is one such value (`IsFirstLeast.unique`),
both pick the same among loosely equal values of different kinds. The greatest value is the first
in the other direction.

What an accumulator knows after some values is one invariant of the pass
(`Accumulator.Summarizes`).
-/

namespace RowQuery

/-! ## The first of the least elements -/

/-- The element `a` is the first of the least elements of a list. -/
structure IsFirstLeast {α : Type} (cmp : α → α → Ordering) (xs : List α) (a : α) : Prop where
  /-- Nothing in the list is less. -/
  least : ∀ b ∈ xs, cmp a b ≠ .gt
  /-- Of the elements equal to it, it is the first. -/
  first : (xs.find? fun b => cmp a b == .eq) = some a

section

variable {α β : Type} {cmp : α → α → Ordering} {xs ys : List α} {a b : α}

namespace IsFirstLeast

theorem mem (h : IsFirstLeast cmp xs a) : a ∈ xs := List.mem_of_find?_eq_some h.first

/-- In another order of the list, the first of the least is equal to this one. -/
theorem eq_of_perm (hcmp : TotalPreorder cmp) (ha : IsFirstLeast cmp xs a) (hb : IsFirstLeast cmp ys b)
    (h : xs.Perm ys) : cmp a b = .eq :=
  hcmp.eq_of_ne_gt (ha.least b (h.symm.subset hb.mem)) (hb.least a (h.subset ha.mem))

theorem unique (hcmp : TotalPreorder cmp) (ha : IsFirstLeast cmp xs a) (hb : IsFirstLeast cmp xs b) : a = b := by
  have := hcmp.transCmp
  have hab : cmp a b = .eq := ha.eq_of_perm hcmp hb (.refl xs)
  have hclass : (fun c => cmp a c == .eq) = fun c => cmp b c == .eq := by
    funext c
    rw [Std.TransCmp.congr_left hab]
  have hfirst := ha.first
  rw [hclass, hb.first] at hfirst
  exact (Option.some.inj hfirst).symm

theorem singleton (hcmp : TotalPreorder cmp) (a : α) : IsFirstLeast cmp [a] a :=
  ⟨by simp [hcmp.refl], by simp [hcmp.refl]⟩

/-- One step of the pass: a further element takes over only if it is strictly less. -/
theorem concat (hcmp : TotalPreorder cmp) (ha : IsFirstLeast cmp xs a) (b : α) :
    IsFirstLeast cmp (xs ++ [b]) (if cmp b a = .lt then b else a) := by
  have := hcmp.transCmp
  by_cases hlt : cmp b a = .lt
  · have hless : ∀ c ∈ xs, cmp b c = .lt := fun c hc =>
      Std.TransCmp.lt_of_lt_of_isLE hlt (Ordering.ne_gt_iff_isLE.1 (ha.least c hc))
    have hnone : (xs.find? fun c => cmp b c == .eq) = none :=
      List.find?_eq_none.2 fun c hc => by simp [hless c hc]
    rw [if_pos hlt]
    constructor
    · intro c hc
      rcases List.mem_append.1 hc with hc | hc
      · simp [hless c hc]
      · simp [List.mem_singleton.1 hc, hcmp.refl]
    · simp [List.find?_append, hnone, hcmp.refl]
  · rw [if_neg hlt]
    constructor
    · intro c hc
      rcases List.mem_append.1 hc with hc | hc
      · exact ha.least c hc
      · rw [List.mem_singleton.1 hc]
        intro hgt
        exact hlt (by rw [hcmp.swap a b, hgt]; rfl)
    · rw [List.find?_append, ha.first, Option.some_or]

theorem map {f : β → α} {l : List β} {r : β} (h : IsFirstLeast (fun r s => cmp (f r) (f s)) l r) :
    IsFirstLeast cmp (l.map f) (f r) where
  least := List.forall_mem_map.2 h.least
  first := by
    rw [List.find?_map]
    exact congrArg (Option.map f) h.first

end IsFirstLeast

theorem StableSort.isFirstLeast_head (hcmp : TotalPreorder cmp) (h : StableSort cmp xs (a :: ys)) :
    IsFirstLeast cmp xs a where
  least _ hb := hcmp.head_ne_gt h.ordered (h.perm.symm.subset hb)
  first := by
    rw [← List.head?_filter, ← h.stable a, List.filter_cons_of_pos (by simp [hcmp.refl]), List.head?_cons]

end

/-! ## The two directions -/

/-- How two values compare in a direction. -/
def Value.compareIn (direction : SortDirection) (a b : Value) : Ordering := direction.orient (a.compareByKind b)

theorem compareIn_preorder (direction : SortDirection) : TotalPreorder (Value.compareIn direction) :=
  compareByKind_preorder.orient direction

theorem Value.looselyEqual_of_compareIn {direction : SortDirection} {a b : Value}
    (h : compareIn direction a b = .eq) : a.looselyEqual b = true := by
  rw [looselyEqual, beq_iff_eq]
  cases direction with
  | ascending => exact h
  | descending => exact Ordering.swap_inj.1 h

/-- The function that asks for the value that is first in a direction. -/
def SortDirection.extremum : SortDirection → AggregateFunction
  | ascending => .minimum
  | descending => .maximum

/-- What is first in a direction among the values, if there are any. -/
def IsExtremum (direction : SortDirection) (vs : List Value) : Option Value → Prop
  | none => vs = []
  | some v => IsFirstLeast (Value.compareIn direction) vs v

/-! ## What an accumulator knows -/

/-- The numeric values added up from left to right. -/
def total (vs : List Value) : Double := (vs.filterMap Value.numeric?).foldl (fun sum x => sum + .finite x) .zero

theorem total_concat (vs : List Value) (v : Value) :
    total (vs ++ [v]) = match v.numeric? with
      | some x => total vs + .finite x
      | none => total vs := by
  rw [total, List.filterMap_append, List.foldl_append]
  cases hv : v.numeric? <;> simp [total, hv]

namespace Accumulator

def extremum? (a : Accumulator) : SortDirection → Option Value
  | .ascending => a.least?
  | .descending => a.greatest?

/-- The accumulator has seen just these values. -/
structure Summarizes (a : Accumulator) (vs : List Value) : Prop where
  count : a.count = vs.length
  sum : a.sum = total vs
  extremum : ∀ direction, IsExtremum direction vs (a.extremum? direction)

theorem extremum?_add (a : Accumulator) (v : Value) (direction : SortDirection) :
    (a.add v).extremum? direction = some (better (direction.orient .lt) (a.extremum? direction) v) := by
  cases direction <;> rfl

theorem isExtremum_better {direction : SortDirection} {vs : List Value} {current? : Option Value}
    (h : IsExtremum direction vs current?) (v : Value) :
    IsExtremum direction (vs ++ [v]) (some (better (direction.orient .lt) current? v)) := by
  cases current? with
  | none =>
    rw [show vs = [] from h]
    exact .singleton (compareIn_preorder direction) v
  | some current =>
    have hstep := IsFirstLeast.concat (compareIn_preorder direction) h v
    have hbeats : Value.compareIn direction v current = .lt ↔ v.compareByKind current = direction.orient .lt := by
      rw [Value.compareIn]
      cases direction with
      | ascending => rfl
      | descending => exact Ordering.swap_eq_lt
    simp only [hbeats] at hstep
    exact hstep

theorem summarizes_empty : empty.Summarizes [] :=
  ⟨rfl, rfl, fun direction => by cases direction <;> rfl⟩

theorem Summarizes.add {a : Accumulator} {vs : List Value} (h : a.Summarizes vs) (v : Value) :
    (a.add v).Summarizes (vs ++ [v]) where
  count := by
    rw [List.length_append, ← h.count]
    rfl
  sum := by
    rw [total_concat, ← h.sum]
    rfl
  extremum direction := by
    rw [extremum?_add]
    exact isExtremum_better (h.extremum direction) v

theorem Summarizes.addAll {a : Accumulator} {vs : List Value} (h : a.Summarizes vs) (ws : List Value) :
    (a.addAll ws).Summarizes (vs ++ ws) := by
  induction ws generalizing a vs with
  | nil => rwa [List.append_nil]
  | cons w ws ih =>
    have hrest := ih (h.add w)
    rwa [List.append_assoc] at hrest

theorem summarizes_addAll (vs : List Value) : (empty.addAll vs).Summarizes vs := summarizes_empty.addAll vs

theorem result_extremum (a : Accumulator) (direction : SortDirection) :
    a.result direction.extremum = (a.extremum? direction).getD .null := by
  cases direction <;> rfl

/-- The accumulator ends at the extremum of the values, or at null if there are none. -/
theorem eq_result_extremum_iff (direction : SortDirection) (vs : List Value) (v : Value) :
    v = (empty.addAll vs).result direction.extremum ↔
      (vs = [] ∧ v = .null) ∨ IsFirstLeast (Value.compareIn direction) vs v := by
  have hpass := (summarizes_addAll vs).extremum direction
  rw [result_extremum]
  cases hfound : (empty.addAll vs).extremum? direction with
  | none =>
    rw [hfound] at hpass
    obtain rfl : vs = [] := hpass
    have hnone : ¬IsFirstLeast (Value.compareIn direction) [] v := fun h => List.not_mem_nil h.mem
    simp [hnone]
  | some w =>
    rw [hfound] at hpass
    have hvs : vs ≠ [] := List.ne_nil_of_mem (IsFirstLeast.mem hpass)
    simp only [hvs, false_and, false_or, Option.getD_some]
    refine ⟨?_, fun h => h.unique (compareIn_preorder direction) hpass⟩
    rintro rfl
    exact hpass

end Accumulator

/-! ## Extrema and sorts -/

namespace Dataset

theorem exists_isFirstLeast_sortBy {rs : Dataset} (h : rs ≠ []) (column : String) (direction : SortDirection) :
    ∃ r, (rs.sortBy column direction).head? = some r ∧
      IsFirstLeast (Value.compareIn direction) (rs.map (·.resolve column)) (r.resolve column) := by
  have hsort := rs.stableSort_sortBy column direction
  cases hsorted : rs.sortBy column direction with
  | nil => exact absurd (hsorted ▸ hsort.perm).symm.eq_nil h
  | cons r rest =>
    rw [hsorted] at hsort
    have hr : IsFirstLeast (fun r s : Record => Value.compareIn direction (r.resolve column) (s.resolve column)) rs r :=
      hsort.isFirstLeast_head (compareBy_preorder column direction)
    exact ⟨r, rfl, hr.map⟩

/-- The extremum of a column is what the first record of a sort has in it. -/
theorem extremum_eq_head {rs : Dataset} (h : rs ≠ []) (column : String) (direction : SortDirection) {name : String}
    (hname : AggregateFunction.ofName? name = some direction.extremum) :
    ∃ r, (rs.sortBy column direction).head? = some r ∧ rs.aggregate [(column, name)] = [(column, r.resolve column)] ∧
      IsFirstLeast (Value.compareIn direction) (rs.map (·.resolve column)) (r.resolve column) := by
  obtain ⟨r, hhead, hr⟩ := exists_isFirstLeast_sortBy h column direction
  refine ⟨r, hhead, ?_, hr⟩
  have hvalue : rs.aggregateColumn column name = r.resolve column := by
    rw [aggregateColumn, hname]
    exact ((Accumulator.eq_result_extremum_iff direction _ _).2 (.inr hr)).symm
  rw [← hvalue]
  rfl

/-- The same records in another order have a loosely equal extremum. -/
theorem looselyEqual_extremum_of_perm {rs out : Dataset} (hperm : out.Perm rs) (h : rs ≠ []) (column : String)
    (direction : SortDirection) {name : String}
    (hname : AggregateFunction.ofName? name = some direction.extremum) {v : Value}
    (hv : IsFirstLeast (Value.compareIn direction) (rs.map (·.resolve column)) v) :
    ∃ w, out.aggregate [(column, name)] = [(column, w)] ∧ w.looselyEqual v = true := by
  have hout : out ≠ [] := fun hnil => h (hnil ▸ hperm).symm.eq_nil
  obtain ⟨r, -, hr, hfirst⟩ := extremum_eq_head hout column direction hname
  have hequal : Value.compareIn direction (r.resolve column) v = .eq :=
    hfirst.eq_of_perm (compareIn_preorder direction) hv (hperm.map (·.resolve column))
  exact ⟨_, hr, Value.looselyEqual_of_compareIn hequal⟩

end Dataset

/-- **Extrema agree with sorting.** The least value of a column is the very value that the first
record of the ascending sort has, and the greatest that of the descending sort. So every value of the
column lies between the two, and the same records in another order have extrema that are loosely
equal to these. -/
theorem extrema_are_heads_of_sorts (p : Pipeline) (column : String) {least greatest : String}
    (hleast : AggregateFunction.ofName? least = some .minimum)
    (hgreatest : AggregateFunction.ofName? greatest = some .maximum) (hne : p.current ≠ []) :
    ∃ lowest highest : Record,
      ((p.sortBy column .ascending).current.head? = some lowest ∧
        p.current.aggregate [(column, least)] = [(column, lowest.resolve column)]) ∧
      ((p.sortBy column .descending).current.head? = some highest ∧
        p.current.aggregate [(column, greatest)] = [(column, highest.resolve column)]) ∧
      (∀ r ∈ p.current, (r.resolve column).compareByKind (lowest.resolve column) ≠ .lt ∧
        (r.resolve column).compareByKind (highest.resolve column) ≠ .gt) ∧
      ∀ rs : Dataset, rs.Perm p.current → ∃ v w : Value,
        (rs.aggregate [(column, least)] = [(column, v)] ∧ v.looselyEqual (lowest.resolve column) = true) ∧
          rs.aggregate [(column, greatest)] = [(column, w)] ∧ w.looselyEqual (highest.resolve column) = true := by
  obtain ⟨lowest, hlow, hmin, hfirst⟩ := Dataset.extremum_eq_head hne column .ascending hleast
  obtain ⟨highest, hhigh, hmax, hlast⟩ := Dataset.extremum_eq_head hne column .descending hgreatest
  refine ⟨lowest, highest, ⟨hlow, hmin⟩, ⟨hhigh, hmax⟩, fun r hr => ⟨fun hlt => ?_, fun hgt => ?_⟩,
    fun rs hperm => ?_⟩
  · refine hfirst.least _ (List.mem_map_of_mem hr) ?_
    rw [Value.compareIn, SortDirection.orient, compareByKind_preorder.swap (r.resolve column), hlt]
    rfl
  · refine hlast.least _ (List.mem_map_of_mem hr) ?_
    rw [Value.compareIn, SortDirection.orient, ← compareByKind_preorder.swap, hgt]
  · obtain ⟨v, hv⟩ := Dataset.looselyEqual_extremum_of_perm hperm hne column .ascending hleast hfirst
    obtain ⟨w, hw⟩ := Dataset.looselyEqual_extremum_of_perm hperm hne column .descending hgreatest hlast
    exact ⟨v, w, hv, hw⟩

/-- Loosely equal values at both ends: text that spells one in front of a truth value and the number,
and what is not a number in front of its text, which comes first backwards. -/
theorem extrema_are_heads_of_sorts_with_ties :
    let rows : Dataset := [⟨[("k", .text "2")]⟩, ⟨[("k", .text " 1.0")]⟩, ⟨[("k", .number .nan)]⟩, ⟨[("k", .bool true)]⟩,
      ⟨[("k", .text "A")]⟩, ⟨[("k", .text "NaN")]⟩, ⟨[("j", .null), ("k", .number (.finite .one))]⟩]
    let p : Pipeline := .ofDataset rows .standard
    let backwards : Dataset := rows.reverse
    ∃ lowest highest : Record,
      ((p.sortBy "k" .ascending).current.head? = some lowest ∧ lowest.resolve "k" = .text " 1.0") ∧
        ((p.sortBy "k" .descending).current.head? = some highest ∧ highest.resolve "k" = .number .nan) ∧
        backwards.aggregate [("k", "Max")] = [("k", .text "NaN")] ∧
        Value.looselyEqual (.text "NaN") (highest.resolve "k") = true := by
  intro rows p backwards
  have hminimum : AggregateFunction.ofName? " min" = some .minimum := by decide
  have hmaximum : AggregateFunction.ofName? "Max" = some .maximum := by decide
  obtain ⟨lowest, highest, ⟨hlow, hmin⟩, ⟨hhigh, hmax⟩, -, hperm⟩ :=
    extrema_are_heads_of_sorts p "k" hminimum hmaximum (by decide)
  have hleast : p.current.aggregate [("k", " min")] = [("k", .text " 1.0")] := by decide +kernel
  have hgreatest : p.current.aggregate [("k", "Max")] = [("k", .number .nan)] := by decide +kernel
  have hlast : backwards.aggregate [("k", "Max")] = [("k", .text "NaN")] := by decide +kernel
  obtain ⟨_, w, -, hw, hequal⟩ := hperm backwards rows.reverse_perm
  rw [hmin] at hleast
  rw [hmax] at hgreatest
  rw [hlast] at hw
  simp only [List.cons.injEq, Prod.mk.injEq, and_true, true_and] at hleast hgreatest hw
  exact ⟨lowest, highest, ⟨hlow, hleast⟩, ⟨hhigh, hgreatest⟩, hlast, hw ▸ hequal⟩

end RowQuery
