import RowQuery.Proofs.AccessPaths
import RowQuery.Proofs.Sorting
/-!
# Range filters cut a sorted dataset

A condition compares by the order of operands, and a sort by the order of kinds. These part on
mixed pairs alone, so among values of one kind, of which null is always one, they are one order
(`Value.compareAsOperands_eq_compareByKind`). The parameter of a filter comes back from its text in
the class that it had, and of the kind that it had. So on a column of one kind, what a range filter
keeps is all that the sort has put on one side of a place.
-/

namespace RowQuery

/-- A test that holds of an element if it holds of a later one cuts a list in two. -/
theorem filter_append_filter_not {α : Type} (test : α → Bool) {xs : List α}
    (h : xs.Pairwise fun a b => test b = true → test a = true) :
    xs.filter test ++ (xs.filter fun a => !test a) = xs := by
  induction xs with
  | nil => rfl
  | cons a xs ih =>
    cases ha : test a with
    | true =>
      rw [List.filter_cons_of_pos ha, List.filter_cons_of_neg (by simp [ha]), List.cons_append, ih h.tail]
    | false =>
      have hfalse : ∀ b ∈ xs, test b = false := by
        intro b hb
        cases htest : test b with
        | true => exact absurd (List.rel_of_pairwise_cons h hb htest) (by simp [ha])
        | false => rfl
      rw [List.filter_eq_nil_iff.2 (by simpa [ha] using hfalse), List.nil_append,
        List.filter_eq_self.2 (by simpa [ha] using hfalse)]

/-! ## One kind of values -/

namespace Value

/-- A value of the kind of `v`: null, or numeric just if `v` is. -/
def IsKindOf (a v : Value) : Prop := a = null ∨ a.numeric?.isSome = v.numeric?.isSome

instance (a v : Value) : Decidable (a.IsKindOf v) := inferInstanceAs (Decidable (_ ∨ _))

theorem compareAsOperands_eq_compareByKind {a v : Value} (hv : v ≠ null) (h : a.IsKindOf v) :
    a.compareAsOperands v = a.compareByKind v := by
  by_cases ha : a = null
  · obtain ⟨⟨hkind, -⟩, ⟨hoperands, -⟩, -⟩ := null_first hv
    rw [ha, hkind, hoperands]
  have hkind := h.resolve_left ha
  rw [compareAsOperands_of_ne_null ha hv, compareByKind_of_ne_null ha hv]
  -- Mixed pairs, where the two part, are of different kinds.
  cases hx : a.numeric? <;> cases hy : v.numeric?
  · rfl
  · simp [hx, hy] at hkind
  · simp [hx, hy] at hkind
  · rfl

/-! ## The parameter comes back of its kind -/

theorem ofUntyped_ne_null (s : String) : ofUntyped s ≠ null := by
  rw [ofUntyped]
  split <;> simp

theorem numeric?_ofUntyped (s : String) : (ofUntyped s).numeric? = parseNumber s.toList := by
  rw [ofUntyped]
  cases h : parseNumber s.toList with
  | some x => rfl
  | none => exact h

theorem isKindOf_ofUntyped {a v : Value} : a.IsKindOf (ofUntyped v.comparisonText) ↔ a.IsKindOf v := by
  rw [IsKindOf, IsKindOf, numeric?_ofUntyped, isSome_parseNumber_comparisonText]

/-- An operator on a value of one kind and the parameter read back goes by the order of the sort. -/
theorem holds_ofUntyped (o : Operator) {a v : Value} (hv : v ≠ null) (h : a.IsKindOf v) :
    o.holds a (ofUntyped v.comparisonText) = o.allows (a.compareByKind v) := by
  rw [Operator.holds, compareAsOperands_eq_compareByKind (ofUntyped_ne_null _) (isKindOf_ofUntyped.2 h),
    compareByKind_eq_order, key_ofUntyped_comparisonText hv, ← compareByKind_eq_order]

end Value

namespace Operator

/-- The operator that holds where this one does not. -/
def negate : Operator → Operator
  | equal => notEqual
  | notEqual => equal
  | less => greaterEqual
  | lessEqual => greater
  | greater => lessEqual
  | greaterEqual => less

theorem allows_negate (o : Operator) (order : Ordering) : o.negate.allows order = !o.allows order := by
  cases o <;> cases order <;> rfl

/-- What is below a bound has everything in front of it below the bound. -/
theorem allows_of_ne_gt {o : Operator} (ho : o = less ∨ o = lessEqual) {a b v : Value}
    (hab : a.compareByKind b ≠ .gt) (hb : o.allows (b.compareByKind v) = true) :
    o.allows (a.compareByKind v) = true := by
  have := compareByKind_preorder.transCmp
  rcases ho with rfl | rfl
  · rw [allows, beq_iff_eq] at hb ⊢
    exact Std.TransCmp.lt_of_isLE_of_lt (Ordering.ne_gt_iff_isLE.1 hab) hb
  · rw [allows, bne_iff_ne] at hb ⊢
    exact compareByKind_preorder.trans a b v hab hb

end Operator

namespace Dataset

variable {rs : Dataset} {column : String} {o : Operator}

/-- The records on which an operator holds, in the order of the sort. -/
def within (rs : Dataset) (column : String) (o : Operator) (v : Value) : Dataset :=
  rs.filter fun r => o.allows ((r.resolve column).compareByKind v)

theorem within_append_negate (rs : Dataset) (column : String) (ho : o = .less ∨ o = .lessEqual) (v : Value) :
    (rs.sortBy column .ascending).within column o v ++ (rs.sortBy column .ascending).within column o.negate v =
      rs.sortBy column .ascending := by
  have hcut := filter_append_filter_not (fun r : Record => o.allows ((r.resolve column).compareByKind v))
    ((rs.stableSort_sortBy column .ascending).ordered.imp fun hrs => Operator.allows_of_ne_gt ho hrs)
  rw [within, within]
  simp only [Operator.allows_negate]
  exact hcut

end Dataset

/-- The text of a filter by one comparison with a parameter. -/
theorem Pipeline.filter_comparison (p : Pipeline) {column : String} (hne : column ≠ "")
    (hchars : ∀ c ∈ column.toList, isColumnChar c = true) (o : Operator) (v : Value) :
    (p.filter (column ++ " " ++ o.symbol ++ " ?") [v]).current = p.current.filter fun r =>
      o.holds (r.resolve column) (.ofUntyped v.comparisonText) := by
  let c : Clause := ⟨column, o, v, hne, hchars⟩
  have htext : column ++ " " ++ o.symbol ++ " ?" = String.ofList c.template := by
    rw [← String.toList_inj, String.toList_append, String.toList_append, String.toList_append, String.toList_ofList]
    simp [c, Clause.template, Clause.lead]
  rw [htext]
  exact c.filter_template p

/-- **Range filters agree with the sort order.** The values of a column are null or of the kind of a
parameter: all numeric if it is, or else none. Then filters of the sorted records by `<` and `<=` keep
what is in front of a place, filters by `>=` and `>` what is behind one, and `<` and `>=`, as well as
`<=` and `>`, have the same place. Each operator keeps the records on which it holds by the order of
the sort. -/
theorem range_filters_cut_sorted (p : Pipeline) {column : String} {v : Value} (hne : column ≠ "")
    (hchars : ∀ c ∈ column.toList, isColumnChar c = true) (hv : v ≠ .null)
    (hkind : ∀ r ∈ p.current, (r.resolve column).IsKindOf v) :
    let sorted := p.sortBy column .ascending
    let kept (symbol : String) : Dataset := (sorted.filter (column ++ " " ++ symbol ++ " ?") [v]).current
    (kept "<" <+: sorted.current ∧ kept "<=" <+: sorted.current) ∧
      (kept ">=" <:+ sorted.current ∧ kept ">" <:+ sorted.current) ∧
      (kept "<" ++ kept ">=" = sorted.current ∧ kept "<=" ++ kept ">" = sorted.current) ∧
      ∀ o : Operator, kept o.symbol =
        sorted.current.filter fun r => o.allows ((r.resolve column).compareByKind v) := by
  intro sorted kept
  have hperm : sorted.current.Perm p.current := (Dataset.stableSort_sortBy p.current column .ascending).perm
  have hkept : ∀ o : Operator, kept o.symbol = sorted.current.within column o v := by
    intro o
    refine (sorted.filter_comparison hne hchars o v).trans (List.filter_congr fun r hr => ?_)
    exact Value.holds_ofUntyped o hv (hkind r (hperm.subset hr))
  have hless : kept "<" ++ kept ">=" = sorted.current := by
    rw [show kept "<" = _ from hkept .less, show kept ">=" = _ from hkept .greaterEqual]
    exact Dataset.within_append_negate p.current column (.inl rfl) v
  have hlessEqual : kept "<=" ++ kept ">" = sorted.current := by
    rw [show kept "<=" = _ from hkept .lessEqual, show kept ">" = _ from hkept .greater]
    exact Dataset.within_append_negate p.current column (.inr rfl) v
  exact ⟨⟨⟨_, hless⟩, ⟨_, hlessEqual⟩⟩, ⟨⟨_, hless⟩, ⟨_, hlessEqual⟩⟩, ⟨hless, hlessEqual⟩, hkept⟩

/-- A column of numbers, with both zeros and one value missing, and a column of texts, with what is
not a number as itself and as its text. -/
theorem range_filters_cut_sorted_of_two_columns :
    let rows : Dataset := [⟨[("n.1", .text "10"), ("s", .text "b")]⟩,
      ⟨[("n.1", .number (Double.signedZero true)), ("s", .number .nan)]⟩, ⟨[("s", .text "NaN")]⟩,
      ⟨[("n.1", .bool true), ("s", .text "a' or s < 'x")]⟩, ⟨[("n.1", .text "0.0")]⟩]
    let p : Pipeline := .ofDataset rows .standard
    let numbers := p.sortBy "n.1" .ascending
    let texts := p.sortBy "s" .ascending
    let below := (numbers.filter ("n.1" ++ " " ++ "<" ++ " ?") [.text " 1e0"]).current
    let above := (texts.filter ("s" ++ " " ++ ">" ++ " ?") [.text "NaN"]).current
    (below <+: numbers.current ∧ below.length = 3 ∧
        below ++ (numbers.filter ("n.1" ++ " " ++ ">=" ++ " ?") [.text " 1e0"]).current = numbers.current) ∧
      above <:+ texts.current ∧ above.length = 2 ∧
        (texts.filter ("s" ++ " " ++ "<=" ++ " ?") [.text "NaN"]).current ++ above = texts.current := by
  intro rows p numbers texts below above
  have hn : ∀ c ∈ "n.1".toList, isColumnChar c = true := List.all_eq_true.1 (by decide +kernel)
  have hs : ∀ c ∈ "s".toList, isColumnChar c = true := List.all_eq_true.1 (by decide +kernel)
  have hnkind : ∀ r ∈ p.current, (r.resolve "n.1").IsKindOf (.text " 1e0") := by decide +kernel
  have hskind : ∀ r ∈ p.current, (r.resolve "s").IsKindOf (.text "NaN") := by decide +kernel
  obtain ⟨⟨hbelow, -⟩, -, ⟨hnumbers, -⟩, hnkept⟩ :=
    range_filters_cut_sorted p (by decide) hn (by decide) hnkind
  obtain ⟨-, ⟨-, habove⟩, ⟨-, htexts⟩, hskept⟩ :=
    range_filters_cut_sorted p (by decide) hs (by decide) hskind
  refine ⟨⟨hbelow, ?_, hnumbers⟩, habove, ?_, htexts⟩
  · rw [show below = _ from hnkept .less]
    exact ((Dataset.stableSort_sortBy rows "n.1" .ascending).perm.filter _).length_eq.trans (by decide +kernel)
  · rw [show above = _ from hskept .greater]
    exact ((Dataset.stableSort_sortBy rows "s" .ascending).perm.filter _).length_eq.trans (by decide +kernel)

end RowQuery
