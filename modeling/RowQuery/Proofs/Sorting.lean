import RowQuery.Pipeline
import RowQuery.Proofs.Lookup
/-!
# Sorting is stable

A stable sort by a comparison gives the same records in order, and those that the comparison
calls equal come in the order they had. A total order leaves no choice in this
(`StableSort.unique`), and the merge sort meets it (`stableSort_sortWith`). So two ways to sort
agree as soon as both are stable sorts by one comparison, and no law of sorting needs another
look at how the sort is done.
-/

namespace RowQuery

/-! ## Total orders and the library's comparisons -/

namespace TotalPreorder

variable {α : Type} {cmp cmp' : α → α → Ordering}

theorem transCmp (h : TotalPreorder cmp) : Std.TransCmp cmp where
  eq_swap {a b} := h.swap b a
  isLE_trans {a b c} hab hbc := by
    rw [← Ordering.ne_gt_iff_isLE] at hab hbc ⊢
    exact h.trans a b c hab hbc

/-- Comparing by one total order, and by another where the first sees no difference. -/
theorem lex (h : TotalPreorder cmp) (h' : TotalPreorder cmp') : TotalPreorder (compareLex cmp cmp') := by
  have := h.transCmp
  have := h'.transCmp
  exact of_transCmp

theorem eq_of_ne_gt (h : TotalPreorder cmp) {a b : α} (hab : cmp a b ≠ .gt) (hba : cmp b a ≠ .gt) :
    cmp a b = .eq := by
  rw [h.swap a b] at hba
  cases hcmp : cmp a b with
  | eq => rfl
  | gt => exact absurd hcmp hab
  | lt => exact absurd (by rw [hcmp]; rfl) hba

/-- The first of a list in order is in front of all of it, itself included. -/
theorem head_ne_gt (h : TotalPreorder cmp) {a b : α} {l : List α} (hl : (a :: l).Pairwise fun a b => cmp a b ≠ .gt)
    (hb : b ∈ a :: l) : cmp a b ≠ .gt := by
  rcases List.mem_cons.1 hb with rfl | hb
  · simp [h.refl]
  · exact List.rel_of_pairwise_cons hl hb

end TotalPreorder

/-- A comparison turned round calls the same elements equal. -/
theorem swap_beq_eq (o : Ordering) : (o.swap == .eq) = (o == .eq) := by
  cases o <;> rfl

theorem compareBy_preorder (column : String) (direction : SortDirection) :
    TotalPreorder (Record.compareBy column direction) :=
  (compareByKind_preorder.comap fun r => Record.resolve r column).orient direction

/-! ## Stable sorts -/

section

variable {α : Type} {cmp cmp' : α → α → Ordering} {xs ys zs : List α}

/-- The list `ys` is `xs` sorted by a comparison, and stably so. -/
structure StableSort (cmp : α → α → Ordering) (xs ys : List α) : Prop where
  perm : ys.Perm xs
  ordered : ys.Pairwise fun a b => cmp a b ≠ .gt
  stable : ∀ a, (ys.filter fun b => cmp a b == .eq) = xs.filter fun b => cmp a b == .eq

/-- The merge sort by a comparison. -/
def sortWith (cmp : α → α → Ordering) (xs : List α) : List α := xs.mergeSort fun a b => cmp a b != .gt

/-- Lists in order with the same elements are equal if each class of equal elements comes in the
same order in both. -/
theorem eq_of_ordered (h : TotalPreorder cmp) (hperm : ys.Perm zs) (hys : ys.Pairwise fun a b => cmp a b ≠ .gt)
    (hzs : zs.Pairwise fun a b => cmp a b ≠ .gt)
    (hstable : ∀ a, (ys.filter fun b => cmp a b == .eq) = zs.filter fun b => cmp a b == .eq) : ys = zs := by
  induction ys generalizing zs with
  | nil => exact (List.nil_perm.1 hperm).symm
  | cons y ys ih =>
    obtain _ | ⟨z, zs⟩ := zs
    · exact absurd hperm.symm (List.not_perm_nil_cons y ys)
    have hyz : cmp y z ≠ .gt := h.head_ne_gt hys (hperm.symm.subset List.mem_cons_self)
    have hzy : cmp z y ≠ .gt := h.head_ne_gt hzs (hperm.subset List.mem_cons_self)
    -- The two heads are in one class, and both are the first of it.
    obtain rfl : y = z := by
      have hclass := hstable y
      rw [List.filter_cons_of_pos (by simp [h.refl]), List.filter_cons_of_pos (by simp [h.eq_of_ne_gt hyz hzy])]
        at hclass
      exact List.head_eq_of_cons_eq hclass
    refine congrArg _ (ih hperm.cons_inv hys.tail hzs.tail fun a => ?_)
    have hclass := hstable a
    rw [List.filter_cons, List.filter_cons] at hclass
    split at hclass
    · exact List.tail_eq_of_cons_eq hclass
    · exact hclass

/-- There is one stable sort of a list by a total order. -/
theorem StableSort.unique (h : TotalPreorder cmp) (hys : StableSort cmp xs ys) (hzs : StableSort cmp xs zs) :
    ys = zs :=
  eq_of_ordered h (hys.perm.trans hzs.perm.symm) hys.ordered hzs.ordered fun a =>
    (hys.stable a).trans (hzs.stable a).symm

theorem stableSort_sortWith (h : TotalPreorder cmp) (xs : List α) : StableSort cmp xs (sortWith cmp xs) := by
  have htrans : ∀ a b c, (cmp a b != .gt) = true → (cmp b c != .gt) = true → (cmp a c != .gt) = true := by
    simpa using h.trans
  have htotal : ∀ a b, ((cmp a b != .gt) || (cmp b a != .gt)) = true := by
    intro a b
    rw [h.swap a b]
    cases cmp a b <;> rfl
  have hperm : (sortWith cmp xs).Perm xs := List.mergeSort_perm _ _
  refine ⟨hperm, (List.pairwise_mergeSort htrans htotal xs).imp (by simp), fun a => ?_⟩
  -- A class of equal elements is in order as it comes, so the sort keeps it as it is.
  have hclass : (xs.filter fun b => cmp a b == .eq).Pairwise fun b c => (cmp b c != .gt) = true := by
    refine List.Pairwise.imp_of_mem ?_ (List.pairwise_of_forall fun _ _ => trivial)
    intro b c hb hc _
    have hab : cmp a b = .eq := by simpa using (List.mem_filter.1 hb).2
    have hac : cmp a c = .eq := by simpa using (List.mem_filter.1 hc).2
    have hbc : cmp b c = .eq := h.equivalence.trans (h.equivalence.symm hab) hac
    rw [hbc]
    rfl
  have hkept := (List.sublist_mergeSort htrans htotal hclass List.filter_sublist).filter fun b => cmp a b == .eq
  rw [List.filter_filter] at hkept
  simp only [Bool.and_self] at hkept
  exact (hkept.eq_of_length (hperm.filter _).length_eq.symm).symm

theorem StableSort.eq_sortWith (h : TotalPreorder cmp) (hys : StableSort cmp xs ys) : ys = sortWith cmp xs :=
  hys.unique h (stableSort_sortWith h xs)

/-- What a test leaves of a stable sort is a stable sort of what it leaves. -/
theorem StableSort.filter (test : α → Bool) (hys : StableSort cmp xs ys) :
    StableSort cmp (xs.filter test) (ys.filter test) where
  perm := hys.perm.filter test
  ordered := hys.ordered.filter test
  stable a := by
    rw [List.filter_comm, hys.stable a, List.filter_comm]

/-- Sorting backwards what comes backwards sorts by the comparison turned round. -/
theorem StableSort.reverse (h : TotalPreorder cmp) (hys : StableSort cmp xs.reverse ys) :
    StableSort (fun a b => (cmp a b).swap) xs ys.reverse where
  perm := ys.reverse_perm.trans (hys.perm.trans xs.reverse_perm)
  ordered := by
    rw [List.pairwise_reverse]
    refine hys.ordered.imp fun {a b} hab => ?_
    rwa [← h.swap b a]
  stable a := by
    simp only [swap_beq_eq]
    rw [List.filter_reverse, hys.stable a, List.filter_reverse, List.reverse_reverse]

/-- Sorting what is sorted already sorts by both comparisons, the later one first. -/
theorem StableSort.lex (h' : TotalPreorder cmp') (hys : StableSort cmp xs ys) (hzs : StableSort cmp' ys zs) :
    StableSort (compareLex cmp' cmp) xs zs where
  perm := hzs.perm.trans hys.perm
  ordered := by
    rw [List.pairwise_iff_forall_sublist]
    intro a b hab hgt
    obtain hgt' | ⟨heq, hgt'⟩ := Ordering.then_eq_gt.1 hgt
    · exact List.pairwise_iff_forall_sublist.1 hzs.ordered hab hgt'
    · -- Two that the later comparison calls equal stand as the earlier sort left them.
      have hclass := hab.filter fun c => cmp' a c == .eq
      rw [List.filter_eq_self.2 (by simp [h'.refl, heq]), hzs.stable a] at hclass
      exact List.pairwise_iff_forall_sublist.1 hys.ordered (hclass.trans List.filter_sublist) hgt'
  stable a := by
    have hclass : ∀ l : List α, (l.filter fun b => compareLex cmp' cmp a b == .eq) =
        (l.filter fun b => cmp' a b == .eq).filter fun b => cmp a b == .eq := by
      intro l
      rw [List.filter_filter]
      refine List.filter_congr fun b _ => ?_
      rw [Bool.eq_iff_iff, Bool.and_eq_true, beq_iff_eq, beq_iff_eq, beq_iff_eq, compareLex, Ordering.then_eq_eq]
      exact and_comm
    rw [hclass, hclass, hzs.stable a, List.filter_comm, hys.stable a, List.filter_comm]

end

/-! ## Sorting records -/

theorem Dataset.stableSort_sortBy (rs : Dataset) (column : String) (direction : SortDirection) :
    StableSort (Record.compareBy column direction) rs (rs.sortBy column direction) :=
  stableSort_sortWith (compareBy_preorder column direction) rs

/-- In either direction, records are equal to a sort if their values are loosely equal. -/
theorem Record.compareBy_beq_eq (column : String) (direction : SortDirection) (r s : Record) :
    (r.compareBy column direction s == .eq) = (r.resolve column).looselyEqual (s.resolve column) := by
  rw [Record.compareBy, Value.looselyEqual]
  cases direction with
  | ascending => rfl
  | descending => exact swap_beq_eq _

/-- The records with a given value keep their order. -/
theorem Dataset.withValue_sortBy (rs : Dataset) (column : String) (direction : SortDirection) (v : Value) :
    (rs.sortBy column direction).withValue column v = rs.withValue column v := by
  -- The class of a value is the class of a record that holds it.
  let held : Record := ⟨[(column, v)]⟩
  have hheld : held.resolve column = v := by simp [held, Record.resolve, Record.get?]
  have hclass : (fun r : Record => (r.resolve column).looselyEqual v) =
      fun r => held.compareBy column direction r == .eq := by
    funext r
    rw [Record.compareBy_beq_eq, hheld, Value.looselyEqual_eq_key, Value.looselyEqual_eq_key]
    exact decide_eq_decide.2 eq_comm
  rw [Dataset.withValue, Dataset.withValue, hclass]
  exact (rs.stableSort_sortBy column direction).stable held

/-- **Sorting by a column is a correct stable sort.** The result has the records as they were.
Ascending, no record compares greater than one behind it, and descending, none compares less.
Records with loosely equal values keep their order in both directions. That is all there is to
it: no other list is a stable sort of the records. -/
theorem sortBy_sorts_stably (rs : Dataset) (column : String) :
    (∀ direction, (rs.sortBy column direction).Perm rs) ∧
      ((rs.sortBy column .ascending).Pairwise fun r s =>
        (r.resolve column).compareByKind (s.resolve column) ≠ .gt) ∧
      ((rs.sortBy column .descending).Pairwise fun r s =>
        (r.resolve column).compareByKind (s.resolve column) ≠ .lt) ∧
      (∀ direction v, (rs.sortBy column direction).withValue column v = rs.withValue column v) ∧
      ∀ direction out, StableSort (Record.compareBy column direction) rs out ↔ out = rs.sortBy column direction := by
  refine ⟨fun direction => (rs.stableSort_sortBy column direction).perm, ?_, ?_,
    fun direction v => rs.withValue_sortBy column direction v, fun direction out => ⟨fun h => ?_, ?_⟩⟩
  · exact (rs.stableSort_sortBy column .ascending).ordered
  · refine (rs.stableSort_sortBy column .descending).ordered.imp fun {r s} hrs hlt => hrs ?_
    rw [Record.compareBy, hlt]
    rfl
  · exact h.eq_sortWith (compareBy_preorder column direction)
  · rintro rfl
    exact rs.stableSort_sortBy column direction

/-- **Directions and successive sorts.** A descending sort is an ascending one of the records
backwards, read backwards. A sort behind another is one stable sort by the later column, and by
the earlier one where the later sees no difference, each in its own direction. Both hold with ties. -/
theorem sort_direction_and_succession (p : Pipeline) (a b c : String) (da db : SortDirection) :
    let compare (column : String) (direction : SortDirection) (r s : Record) : Ordering :=
      match direction with
      | .ascending => (r.resolve column).compareByKind (s.resolve column)
      | .descending => ((r.resolve column).compareByKind (s.resolve column)).swap
    let both (r s : Record) : Ordering :=
      match compare b db r s with
      | .eq => compare a da r s
      | order => order
    (p.sortBy c .descending).current = (Dataset.sortBy p.current.reverse c .ascending).reverse ∧
      ((p.sortBy a da).sortBy b db).current = sortWith both p.current ∧
      StableSort both p.current ((p.sortBy a da).sortBy b db).current := by
  intro compare both
  have hcompare : compare = Record.compareBy := by
    funext column direction r s
    cases direction <;> rfl
  have hlex : both = compareLex (Record.compareBy b db) (Record.compareBy a da) := by
    funext r s
    simp only [both, hcompare, compareLex]
    cases Record.compareBy b db r s <;> rfl
  have hboth : StableSort both p.current ((p.sortBy a da).sortBy b db).current := by
    rw [hlex]
    exact (Dataset.stableSort_sortBy p.current a da).lex (compareBy_preorder b db)
      (Dataset.stableSort_sortBy (Dataset.sortBy p.current a da) b db)
  have hpreorder : TotalPreorder both := hlex ▸ (compareBy_preorder b db).lex (compareBy_preorder a da)
  refine ⟨?_, hboth.eq_sortWith hpreorder, hboth⟩
  have hbackwards : StableSort (Record.compareBy c .descending) p.current
      (Dataset.sortBy p.current.reverse c .ascending).reverse :=
    (Dataset.stableSort_sortBy p.current.reverse c .ascending).reverse (compareBy_preorder c .ascending)
  exact (hbackwards.eq_sortWith (compareBy_preorder c .descending)).symm

/-- **Filters and sorts commute.** The records that satisfy a condition come in the same order
whether the others are dropped before the sort or behind it: records that are dropped have no say
in where ties stand. -/
theorem filter_sort_comm (p : Pipeline) (c : Condition) (column : String) (direction : SortDirection) :
    (p.filterBy c).sortBy column direction = (p.sortBy column direction).filterBy c := by
  refine Pipeline.advance_comm ?_
  have hkept : StableSort (Record.compareBy column direction) (p.current.filter c.holds)
      ((p.current.sortBy column direction).filter c.holds) :=
    (Dataset.stableSort_sortBy p.current column direction).filter c.holds
  exact (hkept.eq_sortWith (compareBy_preorder column direction)).symm

end RowQuery
