import RowQuery.Condition.Evaluation
import RowQuery.Dataset.Sort
import RowQuery.Proofs.PlainText
/-!
# The orders on values

The order by kind is the order of keys, and keys are ordered in a line, so sorting has a
total order up to loose equality. The order of operands is not transitive, but it agrees
with the other one on what is equal: a numeric value and another one are never compared by
the same text (`comparisonText_ne_of_numeric?`).
-/

namespace RowQuery

namespace Value

/-! ## The order of keys -/

/-- Null, then numbers, then texts. -/
def Key.order : Key → Key → Ordering
  | .null, .null => .eq
  | .null, _ => .lt
  | _, .null => .gt
  | .number x, .number y => compare x y
  | .number _, .text _ => .lt
  | .text _, .number _ => .gt
  | .text s, .text t => compare s t

instance : Std.TransCmp Key.order where
  eq_swap {a b} := by
    cases a <;> cases b <;> simp only [Key.order, Ordering.swap]
    · exact Std.OrientedOrd.eq_swap
    · exact Std.OrientedOrd.eq_swap
  isLE_trans {a b c} hab hbc := by
    cases a <;> cases b <;> cases c <;> simp only [Key.order, Ordering.isLE, Bool.false_eq_true] at hab hbc ⊢
    · exact Std.TransOrd.isLE_trans hab hbc
    · exact Std.TransOrd.isLE_trans hab hbc

instance : Std.LawfulEqCmp Key.order where
  compare_self {a} := by
    cases a <;> simp only [Key.order]
    · exact Std.ReflOrd.compare_self
    · exact Std.ReflOrd.compare_self
  eq_of_compare {a b} h := by
    cases a <;> cases b <;> simp only [Key.order, reduceCtorEq] at h ⊢
    · exact congrArg _ (Std.LawfulEqOrd.eq_of_compare h)
    · exact congrArg _ (Std.LawfulEqOrd.eq_of_compare h)

/-! ## Both orders by keys -/

theorem key_of_numeric? {v : Value} {x : FiniteDouble} (h : v.numeric? = some x) :
    v.key = .number x.rank := by
  cases v with
  | null => cases h
  | _ => simp only [key, h]

theorem key_of_text {v : Value} (hnull : v ≠ null) (h : v.numeric? = none) :
    v.key = .text v.comparisonText := by
  cases v with
  | null => exact absurd rfl hnull
  | _ => simp only [key, h]

/-- A value is null, or it has a number, or it is compared by text. -/
theorem kinds (v : Value) :
    v = null ∨ (∃ x, v ≠ null ∧ v.numeric? = some x) ∨ (v ≠ null ∧ v.numeric? = none) := by
  by_cases hnull : v = null
  · exact .inl hnull
  · cases h : v.numeric? with
    | some x => exact .inr (.inl ⟨x, hnull, rfl⟩)
    | none => exact .inr (.inr ⟨hnull, rfl⟩)

theorem compareByKind_of_ne_null {a b : Value} (ha : a ≠ null) (hb : b ≠ null) :
    a.compareByKind b =
      match a.numeric?, b.numeric? with
      | some x, some y => x.order y
      | some _, none => .lt
      | none, some _ => .gt
      | none, none => compare a.comparisonText b.comparisonText := by
  cases a <;> cases b <;> first | rfl | contradiction

theorem compareAsOperands_of_ne_null {a b : Value} (ha : a ≠ null) (hb : b ≠ null) :
    a.compareAsOperands b =
      match a.numeric?, b.numeric? with
      | some x, some y => x.order y
      | _, _ => compare a.comparisonText b.comparisonText := by
  cases a <;> cases b <;> first | rfl | contradiction

/-- Null stands in front of everything else, in both orders and among keys. -/
theorem null_first {v : Value} (hv : v ≠ null) :
    (compareByKind null v = .lt ∧ compareByKind v null = .gt) ∧
      (compareAsOperands null v = .lt ∧ compareAsOperands v null = .gt) ∧
      Key.order .null v.key = .lt ∧ Key.order v.key .null = .gt := by
  rcases v.kinds with h | ⟨x, -, h⟩ | ⟨-, h⟩
  · exact absurd h hv
  · rw [key_of_numeric? h]
    cases v <;> first | exact ⟨⟨rfl, rfl⟩, ⟨rfl, rfl⟩, rfl, rfl⟩ | contradiction
  · rw [key_of_text hv h]
    cases v <;> first | exact ⟨⟨rfl, rfl⟩, ⟨rfl, rfl⟩, rfl, rfl⟩ | contradiction

/-- The order by kind is the order of keys. -/
theorem compareByKind_eq_order (a b : Value) : a.compareByKind b = a.key.order b.key := by
  by_cases ha : a = null
  · by_cases hb : b = null
    · rw [ha, hb]
      rfl
    · obtain ⟨⟨hkind, -⟩, -, horder, -⟩ := null_first hb
      rw [ha, hkind]
      exact horder.symm
  by_cases hb : b = null
  · obtain ⟨⟨-, hkind⟩, -, -, horder⟩ := null_first ha
    rw [hb, hkind]
    exact horder.symm
  rw [compareByKind_of_ne_null ha hb]
  cases hx : a.numeric? <;> cases hy : b.numeric?
  · rw [key_of_text ha hx, key_of_text hb hy]
    rfl
  · rw [key_of_text ha hx, key_of_numeric? hy]
    rfl
  · rw [key_of_numeric? hx, key_of_text hb hy]
    rfl
  · rw [key_of_numeric? hx, key_of_numeric? hy]
    rfl

/-! ## Equality -/

theorem compareByKind_eq_iff (a b : Value) : a.compareByKind b = .eq ↔ a.key = b.key := by
  rw [compareByKind_eq_order]
  exact Std.LawfulEqCmp.compare_eq_iff_eq

/-- The two orders part on mixed pairs, but never over whether two values are equal. -/
theorem compareAsOperands_eq_iff (a b : Value) :
    a.compareAsOperands b = .eq ↔ a.compareByKind b = .eq := by
  by_cases ha : a = null
  · by_cases hb : b = null
    · rw [ha, hb]
      rfl
    · obtain ⟨⟨hkind, -⟩, ⟨hoperands, -⟩, -⟩ := null_first hb
      rw [ha, hkind, hoperands]
  by_cases hb : b = null
  · obtain ⟨⟨-, hkind⟩, ⟨-, hoperands⟩, -⟩ := null_first ha
    rw [hb, hkind, hoperands]
  rw [compareAsOperands_of_ne_null ha hb, compareByKind_of_ne_null ha hb]
  -- The two orders differ on mixed pairs only, and there the texts differ as well.
  cases hx : a.numeric? <;> cases hy : b.numeric?
  · rfl
  · have hne : a.comparisonText ≠ b.comparisonText := (comparisonText_ne_of_numeric? hy hx).symm
    simp [hne]
  · have hne : a.comparisonText ≠ b.comparisonText := comparisonText_ne_of_numeric? hx hy
    simp [hne]
  · rfl

/-- There is one notion of equality: of operands, of the sorting order, of loosely equal
values, of keys, and of the operator `=`. -/
theorem equalities_agree (a b : Value) :
    List.TFAE [a.compareAsOperands b = .eq, a.compareByKind b = .eq, a.looselyEqual b = true,
      a.key = b.key, Operator.equal.holds a b = true] := by
  tfae_have 1 ↔ 2 := compareAsOperands_eq_iff a b
  tfae_have 2 ↔ 3 := by simp [looselyEqual]
  tfae_have 2 ↔ 4 := compareByKind_eq_iff a b
  tfae_have 5 ↔ 1 := by simp [Operator.holds, Operator.allows]
  tfae_finish

end Value

/-! ## Sorting has a total order -/

/-- A comparison that orders in a line, up to what it calls equal. -/
structure TotalPreorder {α : Type} (cmp : α → α → Ordering) : Prop where
  refl : ∀ a, cmp a a = .eq
  swap : ∀ a b, cmp b a = (cmp a b).swap
  trans : ∀ a b c, cmp a b ≠ .gt → cmp b c ≠ .gt → cmp a c ≠ .gt

namespace TotalPreorder

variable {α β : Type} {cmp : α → α → Ordering}

theorem of_transCmp [Std.TransCmp cmp] : TotalPreorder cmp where
  refl _ := Std.ReflCmp.compare_self
  swap _ _ := Std.OrientedCmp.eq_swap
  trans a b c hab hbc := by
    rw [ne_eq, Ordering.ne_gt_iff_isLE] at hab hbc ⊢
    exact Std.TransCmp.isLE_trans hab hbc

/-- Comparing by what a function makes of the values. -/
theorem comap (h : TotalPreorder cmp) (f : β → α) : TotalPreorder fun a b => cmp (f a) (f b) where
  refl a := h.refl (f a)
  swap a b := h.swap (f a) (f b)
  trans a b c := h.trans (f a) (f b) (f c)

/-- Either direction of a total order is one. -/
theorem orient (h : TotalPreorder cmp) (direction : SortDirection) :
    TotalPreorder fun a b => direction.orient (cmp a b) := by
  cases direction with
  | ascending => exact h
  | descending =>
    have hswap : (fun a b => SortDirection.descending.orient (cmp a b)) = fun a b => cmp b a := by
      funext a b
      exact (h.swap a b).symm
    rw [hswap]
    exact ⟨h.refl, fun a b => h.swap b a, fun a b c hab hbc => h.trans c b a hbc hab⟩

/-- What a total order calls equal is equal in the sense of an equivalence. -/
theorem equivalence (h : TotalPreorder cmp) : Equivalence fun a b => cmp a b = .eq where
  refl := h.refl
  symm {a b} hab := by rw [h.swap a b, hab]; rfl
  trans {a b c} hab hbc := by
    have hac := h.trans a b c (by simp [hab]) (by simp [hbc])
    have hca := h.trans c b a (by simp [h.swap b c, hbc]) (by simp [h.swap a b, hab])
    rw [h.swap a c] at hca
    cases hcmp : cmp a c with
    | eq => rfl
    | gt => exact absurd hcmp hac
    | lt => exact absurd (by rw [hcmp]; rfl) hca

end TotalPreorder

theorem compareByKind_preorder : TotalPreorder Value.compareByKind := by
  have h : Value.compareByKind = fun a b => Value.Key.order a.key b.key := by
    funext a b
    exact Value.compareByKind_eq_order a b
  rw [h]
  exact TotalPreorder.of_transCmp.comap Value.key

/-- Values are in a total order by kind, in which loose equality is an equivalence, and
records are in a total order by any column in both directions. -/
theorem sorting_order_total :
    TotalPreorder Value.compareByKind ∧
      Equivalence (fun a b : Value => a.looselyEqual b = true) ∧
      ∀ (column : String) (direction : SortDirection), TotalPreorder (Record.compareBy column direction) := by
  refine ⟨compareByKind_preorder, ?_, ?_⟩
  · have h : (fun a b : Value => a.looselyEqual b = true) = fun a b => a.compareByKind b = .eq := by
      funext a b
      simp [Value.looselyEqual]
    rw [h]
    exact compareByKind_preorder.equivalence
  · intro column direction
    exact (compareByKind_preorder.comap fun r => Record.resolve r column).orient direction

end RowQuery
