import RowQuery.Proofs.Pushdown
import RowQuery.Proofs.Sorting
/-!
# Laws of projection

A projection by a list of names leaves of each record the columns that are named. A column that
is kept resolves as before (`Record.resolve_restrict`), so a projection changes places with limits
always, and with sorts and filters as long as they look at kept columns only.
-/

namespace RowQuery

namespace Record

/-- The record `s` is what is left of `r` when only some columns are kept. -/
structure IsRestriction (keep : String → Bool) (r s : Record) : Prop where
  /-- What is left has the values it had, in the order it had. -/
  entries : s.entries.Sublist r.entries
  /-- The columns are all those that are kept, and no others. -/
  columns : s.columns = r.columns.filter keep

theorem isRestriction_iff {keep : String → Bool} {r s : Record} :
    IsRestriction keep r s ↔ s.entries = r.entries.filter fun entry => keep entry.1 := by
  constructor
  · rintro ⟨hentries, hcolumns⟩
    have hkept : ∀ entry ∈ s.entries, keep entry.1 = true := by
      intro entry hentry
      have hcolumn : entry.1 ∈ s.columns := List.mem_map_of_mem hentry
      rw [hcolumns] at hcolumn
      exact (List.mem_filter.1 hcolumn).2
    have hsublist := hentries.filter fun entry => keep entry.1
    rw [List.filter_eq_self.2 hkept] at hsublist
    refine hsublist.eq_of_length ?_
    have hlength := congrArg List.length hcolumns
    rw [Record.columns, Record.columns, List.filter_map, List.length_map, List.length_map] at hlength
    exact hlength
  · intro h
    refine ⟨h ▸ List.filter_sublist, ?_⟩
    rw [Record.columns, Record.columns, h, List.filter_map]
    rfl

/-- A projection leaves the columns that are named, and nothing else is what is left. -/
theorem isRestriction_iff_restrict {names : List String} {r s : Record} :
    IsRestriction (names.contains ·) r s ↔ s = r.restrict names := by
  rw [isRestriction_iff, restrict]
  cases s
  rw [Record.mk.injEq]

/-- What is left of what is left has the columns that are kept both times. -/
theorem IsRestriction.trans {keep keep' : String → Bool} {r s t : Record} (hs : IsRestriction keep r s)
    (ht : IsRestriction keep' s t) : IsRestriction (fun column => keep column && keep' column) r t := by
  refine ⟨ht.entries.trans hs.entries, ?_⟩
  rw [ht.columns, hs.columns, List.filter_filter]
  exact List.filter_congr fun column _ => Bool.and_comm _ _

theorem restrict_comm (r : Record) (names names' : List String) :
    (r.restrict names).restrict names' = (r.restrict names').restrict names :=
  congrArg Record.mk (List.filter_comm _ _ _)

/-- With distinct columns, to drop entries is the same as to set those that are kept in an empty
record. -/
theorem restrict_eq_ofList {r : Record} (h : r.columns.Nodup) (names : List String) :
    r.restrict names = ofList (r.entries.filter fun entry => names.contains entry.1) := by
  have hnames : ((r.entries.filter fun entry => names.contains entry.1).map (·.1)).Nodup :=
    h.sublist (List.filter_sublist.map _)
  rw [ofList, setAll, empty, setEntries_nil hnames, restrict]

end Record

/-! ## Steps that change places with a projection -/

namespace Dataset

theorem forall₂_isRestriction_iff {rs out : Dataset} {names : List String} :
    List.Forall₂ (Record.IsRestriction (names.contains ·)) rs out ↔ out = rs.map (·.restrict names) := by
  constructor
  · intro h
    induction h with
    | nil => rfl
    | cons hleft _ ih => rw [ih, Record.isRestriction_iff_restrict.1 hleft, List.map_cons]
  · rintro rfl
    rw [List.forall₂_map_right_iff, List.forall₂_same]
    exact fun r _ => Record.isRestriction_iff_restrict.2 rfl

theorem limit_map_restrict (rs : Dataset) (names : List String) (count offset : Nat) :
    limit (rs.map (·.restrict names)) count offset = (rs.limit count offset).map (·.restrict names) := by
  rw [limit, limit, List.map_take, List.map_drop]

theorem sortBy_map_restrict (rs : Dataset) {names : List String} {column : String} (h : column ∈ names)
    (direction : SortDirection) :
    sortBy (rs.map (·.restrict names)) column direction = (rs.sortBy column direction).map (·.restrict names) := by
  have hcompare : ∀ r ∈ rs, ∀ s ∈ rs, (r.compareBy column direction s != .gt) =
      ((r.restrict names).compareBy column direction (s.restrict names) != .gt) := by
    intro r _ s _
    rw [Record.compareBy, Record.compareBy, Record.resolve_restrict r h, Record.resolve_restrict s h]
  rw [sortBy, sortBy]
  exact (List.map_mergeSort hcompare).symm

theorem filterBy_map_restrict (rs : Dataset) {names : List String} {c : Condition}
    (h : ∀ comparison ∈ c.comparisons, comparison.column ∈ names) :
    filterBy (rs.map (·.restrict names)) c = (rs.filterBy c).map (·.restrict names) := by
  have hholds : c.holds ∘ (·.restrict names) = c.holds := by
    funext r
    exact Condition.holds_congr fun comparison hmem => Record.resolve_restrict r (h comparison hmem)
  rw [filterBy, filterBy, List.filter_map, hholds]

end Dataset

theorem Pipeline.select_of_ne {names : List String} (h : names ≠ ["*"]) (p : Pipeline) :
    p.select names = p.advance (·.map (·.restrict names)) := by
  rw [select, Projection.ofColumns, if_neg h]
  rfl

/-- **Laws of projection.** A list of names, unless it is just `*`, leaves of every record the
columns that are named, and that alone is its result. For records with distinct columns this is the
same as to set the entries that are kept, one after the other, in an empty record. Two projections
leave what is named both times, whichever comes first. A projection changes places with limits, with
sorts by a column that it keeps, and with filters whose comparisons are about columns that it keeps. -/
theorem projection_laws (p : Pipeline) {A B : List String} (hA : A ≠ ["*"]) (hB : B ≠ ["*"]) :
    (∀ out, List.Forall₂ (Record.IsRestriction (A.contains ·)) p.current out ↔ out = (p.select A).current) ∧
      ((∀ r ∈ p.current, r.columns.Nodup) → (p.select A).current =
        p.current.map fun r => .ofList (r.entries.filter fun entry => A.contains entry.1)) ∧
      List.Forall₂ (Record.IsRestriction fun column => A.contains column && B.contains column) p.current
        ((p.select A).select B).current ∧
      (p.select A).select B = (p.select B).select A ∧
      (∀ count offset, (p.select A).limit count offset = (p.limit count offset).select A) ∧
      (∀ column direction, column ∈ A →
        (p.select A).sortBy column direction = (p.sortBy column direction).select A) ∧
      ∀ c : Condition, (∀ comparison ∈ c.comparisons, comparison.column ∈ A) →
        (p.select A).filterBy c = (p.filterBy c).select A := by
  simp only [Pipeline.select_of_ne hA, Pipeline.select_of_ne hB]
  refine ⟨fun out => ?_, fun hcolumns => ?_, ?_, ?_, fun count offset => ?_, fun column direction hcolumn => ?_,
    fun c hc => ?_⟩
  · exact Dataset.forall₂_isRestriction_iff
  · exact List.map_congr_left fun r hr => Record.restrict_eq_ofList (hcolumns r hr) A
  · rw [Pipeline.advance, Pipeline.advance, List.map_map, List.forall₂_map_right_iff, List.forall₂_same]
    intro r _
    exact (Record.isRestriction_iff_restrict.2 rfl).trans (Record.isRestriction_iff_restrict.2 rfl)
  · refine Pipeline.advance_comm ?_
    rw [List.map_map, List.map_map]
    exact List.map_congr_left fun r _ => r.restrict_comm A B
  · exact Pipeline.advance_comm (Dataset.limit_map_restrict _ A count offset)
  · exact Pipeline.advance_comm (Dataset.sortBy_map_restrict _ hcolumn direction)
  · exact Pipeline.advance_comm (Dataset.filterBy_map_restrict _ hc)

/-- Records of different shapes, a column named `*`, and names that are repeated or name nothing. -/
theorem projection_laws_of_shapes :
    let one : Value := .number (.finite .one)
    let rows : Dataset := [⟨[("b", .text "x"), ("a", one), ("*", .null)]⟩, ⟨[("a", .text "1.0")]⟩,
      ⟨[("x", .bool true), ("b", .text " 1 ")]⟩]
    let p : Pipeline := .ofDataset rows .standard
    let A := ["*", "x", "b", "nope", "b"]
    let B := ["b", "a", "*"]
    let c := Condition.parse "b >= ? or x = 1" [one]
    let out : Dataset := [⟨[("b", .text "x"), ("*", .null)]⟩, ⟨[]⟩, ⟨[("x", .bool true), ("b", .text " 1 ")]⟩]
    (out = (p.select A).current ∧ List.Forall₂ (Record.IsRestriction (A.contains ·)) p.current out ∧
        (p.select A).current =
          p.current.map fun r => .ofList (r.entries.filter fun entry => A.contains entry.1)) ∧
      (((p.select A).select B).current = [⟨[("b", .text "x"), ("*", .null)]⟩, ⟨[]⟩, ⟨[("b", .text " 1 ")]⟩] ∧
        (p.select A).select B = (p.select B).select A) ∧
      (p.select A).limit 1 2 = (p.limit 1 2).select A ∧
      (p.select A).sortBy "b" .descending = (p.sortBy "b" .descending).select A ∧
      ((p.select A).filterBy c = (p.filterBy c).select A ∧
        ((p.filterBy c).select A).current =
          [⟨[("b", .text "x"), ("*", .null)]⟩, ⟨[("x", .bool true), ("b", .text " 1 ")]⟩]) := by
  intro one rows p A B c out
  obtain ⟨hleft, hofList, -, hselect, hlimit, hsort, hfilter⟩ :=
    projection_laws p (A := A) (B := B) (by decide) (by decide)
  have hcolumns : ∀ r ∈ p.current, r.columns.Nodup := by decide
  have hnames : ∀ comparison ∈ c.comparisons, comparison.column ∈ A := by decide +kernel
  have hout : out = (p.select A).current := by decide
  exact ⟨⟨hout, (hleft out).2 hout, hofList hcolumns⟩, ⟨by decide, hselect⟩, hlimit 1 2,
    hsort "b" .descending (by decide), hfilter c hnames, by decide +kernel⟩

end RowQuery
