import RowQuery.Proofs.Lookup
/-!
# Groups are a partition in order

The first record of a dataset opens the first group, which takes all records of its class; the
other groups are those of the records that are left (`Grouping.groups_groupBy_cons`). So the
groups are the classes of loosely equal values, in the order in which they first occur, each
under the value of its first record, and no other list of groups is
(`IsPartition.unique`). A value is looked up among pairwise unequal keys.
-/

namespace RowQuery

namespace Dataset

/-- The records with no value loosely equal to `v` in a column, in their order. -/
def withoutValue (rs : Dataset) (column : String) (v : Value) : Dataset :=
  rs.filter fun r => !(r.resolve column).looselyEqual v

/-- The position of the first record with a value loosely equal to `v` in a column. -/
def firstWith (rs : Dataset) (column : String) (v : Value) : Nat :=
  rs.findIdx fun r => (r.resolve column).looselyEqual v

theorem mem_withValue {rs : Dataset} {column : String} {v : Value} {r : Record} :
    r ∈ rs.withValue column v ↔ r ∈ rs ∧ (r.resolve column).key = v.key := by
  rw [withValue, List.mem_filter, Value.looselyEqual_iff]

theorem mem_withoutValue {rs : Dataset} {column : String} {v : Value} {r : Record} :
    r ∈ rs.withoutValue column v ↔ r ∈ rs ∧ (r.resolve column).key ≠ v.key := by
  rw [withoutValue, List.mem_filter, Bool.not_eq_true', Value.looselyEqual_eq_false_iff]

theorem withValue_cons (r : Record) (rs : Dataset) (column : String) (v : Value) :
    withValue (r :: rs) column v =
      if (r.resolve column).key = v.key then r :: rs.withValue column v else rs.withValue column v := by
  simp only [withValue, List.filter_cons, Value.looselyEqual_iff]

theorem withoutValue_cons (r : Record) (rs : Dataset) (column : String) (v : Value) :
    withoutValue (r :: rs) column v =
      if (r.resolve column).key = v.key then rs.withoutValue column v else r :: rs.withoutValue column v := by
  simp only [withoutValue, List.filter_cons, Bool.not_eq_true', Value.looselyEqual_eq_false_iff, ne_eq, ite_not]

theorem firstWith_cons (r : Record) (rs : Dataset) (column : String) (v : Value) :
    firstWith (r :: rs) column v = if (r.resolve column).key = v.key then 0 else rs.firstWith column v + 1 := by
  rw [firstWith, List.findIdx_cons, Value.looselyEqual_eq_key, Bool.cond_decide]
  rfl

theorem withValue_congr (rs : Dataset) (column : String) {v w : Value} (h : v.key = w.key) :
    rs.withValue column v = rs.withValue column w := by
  refine List.filter_congr fun r _ => ?_
  rw [Value.looselyEqual_eq_key, Value.looselyEqual_eq_key, h]

/-- A class is not changed when another one is taken away. -/
theorem withValue_withoutValue (rs : Dataset) (column : String) {v w : Value} (h : w.key ≠ v.key) :
    (rs.withoutValue column v).withValue column w = rs.withValue column w := by
  rw [withValue, withoutValue, List.filter_filter]
  refine List.filter_congr fun r _ => ?_
  rw [Value.looselyEqual_eq_key, Value.looselyEqual_eq_key]
  by_cases hw : (r.resolve column).key = w.key
  · simp [hw, h]
  · simp [hw]

/-- The order in which two classes first occur does not depend on a third. -/
theorem firstWith_lt_of_withoutValue {rs : Dataset} {column : String} {v w w' : Value} (hw : w.key ≠ v.key)
    (hw' : w'.key ≠ v.key)
    (h : (rs.withoutValue column v).firstWith column w < (rs.withoutValue column v).firstWith column w') :
    rs.firstWith column w < rs.firstWith column w' := by
  induction rs with
  | nil => exact h
  | cons r rs ih =>
    rw [withoutValue_cons] at h
    rw [firstWith_cons, firstWith_cons]
    by_cases hr : (r.resolve column).key = v.key
    · rw [if_pos hr] at h
      rw [if_neg (hr ▸ hw.symm), if_neg (hr ▸ hw'.symm)]
      exact Nat.succ_lt_succ (ih h)
    · -- The record is left, and counts alike on both sides.
      rw [if_neg hr, firstWith_cons, firstWith_cons] at h
      split_ifs at h ⊢ <;> omega

end Dataset

/-! ## The first group, and the rest -/

namespace Grouping

/-- A scan gives the first group its class, and the other groups what is left. -/
theorem scan_cons (column : String) (rs : Dataset) (g : Group) (groups : List Group) :
    rs.foldl (fun groups r => addToGroup (r.resolve column) r groups) (g :: groups) =
      { g with records := g.records ++ rs.withValue column g.key } ::
        (rs.withoutValue column g.key).foldl (fun groups r => addToGroup (r.resolve column) r groups) groups := by
  induction rs generalizing g groups with
  | nil => exact congrArg (fun records => [{ g with records }] ++ groups) (List.append_nil g.records).symm
  | cons r rs ih =>
    rw [List.foldl_cons, addToGroup, Dataset.withValue_cons, Dataset.withoutValue_cons]
    by_cases h : g.key.key = (r.resolve column).key
    · rw [if_pos h, if_pos h.symm, if_pos h.symm, ih, List.append_assoc]
      rfl
    · rw [if_neg h, if_neg (Ne.symm h), if_neg (Ne.symm h), ih]
      rfl

theorem groups_groupBy_cons (r : Record) (rs : Dataset) (column : String) :
    (Dataset.groupBy (r :: rs) column).groups =
      ⟨r.resolve column, r :: rs.withValue column (r.resolve column)⟩ ::
        ((rs.withoutValue column (r.resolve column)).groupBy column).groups :=
  scan_cons column rs ⟨r.resolve column, [r]⟩ []

end Grouping

/-! ## Classes in order -/

/-- The groups are the classes of the records by the values of a column. -/
structure IsPartition (column : String) (rs : Dataset) (groups : List Group) : Prop where
  /-- The key of a group is the value of its first record, and there is one. -/
  key : ∀ g ∈ groups, g.records.head?.map (·.resolve column) = some g.key
  /-- A group has the records with a value equal to its key, in the order of the dataset. -/
  records : ∀ g ∈ groups, g.records = rs.withValue column g.key
  /-- No two keys are loosely equal. -/
  apart : groups.Pairwise fun g h => g.key.looselyEqual h.key = false
  /-- The groups come in the order of the first records of their classes. -/
  order : groups.Pairwise fun g h => rs.firstWith column g.key < rs.firstWith column h.key
  /-- All records are in the groups, each once. -/
  perm : (groups.flatMap (·.records)).Perm rs

namespace IsPartition

variable {column : String} {rs : Dataset} {groups groups' : List Group}

theorem nil : IsPartition column [] [] :=
  ⟨by simp, by simp, .nil, .nil, .refl _⟩

/-- No two groups have one class. -/
theorem nodup_classes (h : IsPartition column rs groups) : (groups.map (·.key.key)).Nodup :=
  List.pairwise_map.2 (h.apart.imp Value.looselyEqual_eq_false_iff.1)

theorem class_ne (h : IsPartition column rs groups) {i j : Nat} {g g' : Group} (hij : i ≠ j)
    (hg : groups[i]? = some g) (hg' : groups[j]? = some g') : g.key.key ≠ g'.key.key := by
  intro hclass
  have hi : i < groups.length := (List.getElem?_eq_some_iff.1 hg).1
  refine hij ((List.getElem?_inj (by rwa [List.length_map]) h.nodup_classes).1 ?_)
  rw [List.getElem?_map, List.getElem?_map, hg, hg', Option.map_some, Option.map_some, hclass]

/-- The key of a group is a value that occurs. -/
theorem exists_record (h : IsPartition column rs groups) {g : Group} (hg : g ∈ groups) :
    ∃ r ∈ rs, r.resolve column = g.key := by
  obtain ⟨r, hr, hkey⟩ := Option.map_eq_some_iff.1 (h.key g hg)
  have hmem : r ∈ rs.withValue column g.key := h.records g hg ▸ List.mem_of_head? hr
  exact ⟨r, (Dataset.mem_withValue.1 hmem).1, hkey⟩

/-- A value that occurs is in the class of a group. -/
theorem exists_group (h : IsPartition column rs groups) {r : Record} (hr : r ∈ rs) :
    ∃ g ∈ groups, g.key.key = (r.resolve column).key := by
  obtain ⟨g, hg, hmem⟩ := List.mem_flatMap.1 (h.perm.mem_iff.2 hr)
  rw [h.records g hg] at hmem
  exact ⟨g, hg, (Dataset.mem_withValue.1 hmem).2.symm⟩

/-- Where a class was taken away, no group is left for it. -/
theorem key_ne {v : Value} (h : IsPartition column (rs.withoutValue column v) groups) :
    ∀ g ∈ groups, g.key.key ≠ v.key := by
  intro g hg
  obtain ⟨r, hr, hkey⟩ := h.exists_record hg
  exact hkey ▸ (Dataset.mem_withoutValue.1 hr).2

/-- The class of a record in front, and the groups of the records outside it. -/
theorem cons {r : Record} (h : IsPartition column (rs.withoutValue column (r.resolve column)) groups) :
    IsPartition column (r :: rs) (⟨r.resolve column, r :: rs.withValue column (r.resolve column)⟩ :: groups) where
  key := List.forall_mem_cons.2 ⟨rfl, h.key⟩
  records := by
    refine List.forall_mem_cons.2 ⟨?_, fun g hg => ?_⟩
    · exact ((Dataset.withValue_cons r rs column _).trans (if_pos rfl)).symm
    · rw [h.records g hg, Dataset.withValue_withoutValue rs column (h.key_ne g hg), Dataset.withValue_cons,
        if_neg (h.key_ne g hg).symm]
  apart := by
    refine List.pairwise_cons.2 ⟨fun g hg => ?_, h.apart⟩
    exact Value.looselyEqual_eq_false_iff.2 (h.key_ne g hg).symm
  order := by
    -- The record is the first of its class, and every other class comes one later than without it.
    have hlater : ∀ g ∈ groups, Dataset.firstWith (r :: rs) column g.key = rs.firstWith column g.key + 1 :=
      fun g hg => (Dataset.firstWith_cons r rs column g.key).trans (if_neg (h.key_ne g hg).symm)
    refine List.pairwise_cons.2 ⟨fun g hg => ?_, h.order.imp_of_mem fun {g g'} hg hg' hlt => ?_⟩
    · rw [hlater g hg, Dataset.firstWith_cons, if_pos rfl]
      exact Nat.succ_pos _
    · rw [hlater g hg, hlater g' hg']
      exact Nat.succ_lt_succ (Dataset.firstWith_lt_of_withoutValue (h.key_ne g hg) (h.key_ne g' hg') hlt)
  perm := by
    rw [List.flatMap_cons, List.cons_append]
    exact ((h.perm.append_left _).trans (List.filter_append_perm _ _)).cons r

/-- A class has one group, whose key its first record decides. -/
theorem group_eq (h : IsPartition column rs groups) (h' : IsPartition column rs groups') {g g' : Group}
    (hg : g ∈ groups) (hg' : g' ∈ groups') (hclass : g.key.key = g'.key.key) : g = g' := by
  have hrecords : g.records = g'.records := by
    rw [h.records g hg, h'.records g' hg', rs.withValue_congr column hclass]
  have hkey : g.key = g'.key := by
    have hfirst := h.key g hg
    rw [hrecords, h'.key g' hg'] at hfirst
    exact (Option.some.inj hfirst).symm
  cases g
  cases g'
  exact congrArg₂ Group.mk hkey hrecords

theorem mem_of_mem (h : IsPartition column rs groups) (h' : IsPartition column rs groups') {g : Group}
    (hg : g ∈ groups) : g ∈ groups' := by
  obtain ⟨r, hr, hkey⟩ := h.exists_record hg
  obtain ⟨g', hg', hclass⟩ := h'.exists_group hr
  obtain rfl : g = g' := h.group_eq h' hg hg' (by rw [hclass, hkey])
  exact hg'

/-- There is one way to group. -/
theorem unique (h : IsPartition column rs groups) (h' : IsPartition column rs groups') : groups = groups' := by
  let earlier (g g' : Group) : Prop := rs.firstWith column g.key < rs.firstWith column g'.key
  have : Std.Irrefl earlier := ⟨fun _ => Nat.lt_irrefl _⟩
  have : Std.Antisymm earlier := ⟨fun _ _ hlt hgt => absurd hlt (Nat.lt_asymm hgt)⟩
  exact List.Pairwise.eq_of_mem_iff (r := earlier) h.order h'.order fun g =>
    ⟨h.mem_of_mem h', h'.mem_of_mem h⟩

end IsPartition

theorem isPartition_groupBy (rs : Dataset) (column : String) :
    IsPartition column rs (rs.groupBy column).groups := by
  induction hlength : rs.length using Nat.strong_induction_on generalizing rs with
  | _ n ih =>
    cases rs with
    | nil => exact .nil
    | cons r rs =>
      have hshorter : (Dataset.withoutValue rs column (r.resolve column)).length < n :=
        hlength ▸ Nat.lt_succ_of_le (List.length_filter_le _ rs)
      rw [Grouping.groups_groupBy_cons]
      exact (ih _ hshorter _ rfl).cons

/-! ## Looking a group up -/

namespace Grouping

variable {rs : Dataset} {column : String} {v : Value}

theorem get?_eq_some_iff {g : Group} :
    (rs.groupBy column).get? v = some g ↔
      g ∈ (rs.groupBy column).groups ∧ g.key.looselyEqual v = true := by
  have hpartition := isPartition_groupBy rs column
  rw [Value.looselyEqual_iff]
  have hfound : ∀ {g : Group}, (rs.groupBy column).get? v = some g →
      g ∈ (rs.groupBy column).groups ∧ g.key.key = v.key :=
    fun h => ⟨List.mem_of_find?_eq_some h, by simpa using List.find?_some h⟩
  refine ⟨hfound, fun ⟨hg, hkey⟩ => ?_⟩
  obtain ⟨g', hg'⟩ : ∃ g', (rs.groupBy column).get? v = some g' :=
    Option.isSome_iff_exists.1 (List.find?_isSome.2 ⟨g, hg, by simpa using hkey⟩)
  obtain ⟨hmem, hkey'⟩ := hfound hg'
  rw [hg', hpartition.group_eq hpartition hmem hg (hkey'.trans hkey.symm)]

/-- A value has a group exactly if it is loosely equal to one that occurs. -/
theorem exists_get?_iff :
    (∃ g, (rs.groupBy column).get? v = some g) ↔ ∃ r ∈ rs, (r.resolve column).looselyEqual v = true := by
  have hpartition := isPartition_groupBy rs column
  simp only [get?_eq_some_iff, Value.looselyEqual_iff]
  constructor
  · rintro ⟨g, hg, hkey⟩
    obtain ⟨r, hr, hvalue⟩ := hpartition.exists_record hg
    exact ⟨r, hr, by rw [hvalue, hkey]⟩
  · rintro ⟨r, hr, hkey⟩
    obtain ⟨g, hg, hclass⟩ := hpartition.exists_group hr
    exact ⟨g, hg, hclass.trans hkey⟩

end Grouping

/-- **Grouping is a partition in order.** No group is empty. Each has the records of one class of
loosely equal values, in the order of the dataset, under the value of the first of them, and the
classes come in the order in which they first occur. All records together are a permutation of the
dataset. Nothing else is such a list of groups. A value has the group of its class, and none if no
value of the column is in its class. -/
theorem groupBy_partitions (rs : Dataset) (column : String) :
    IsPartition column rs (rs.groupBy column).groups ∧
      (∀ groups, IsPartition column rs groups ↔ groups = (rs.groupBy column).groups) ∧
      (∀ g ∈ (rs.groupBy column).groups, g.records ≠ []) ∧
      (∀ v g, (rs.groupBy column).get? v = some g ↔
        g ∈ (rs.groupBy column).groups ∧ g.key.looselyEqual v = true) ∧
      ∀ v, (∃ g, (rs.groupBy column).get? v = some g) ↔ ∃ r ∈ rs, (r.resolve column).looselyEqual v = true := by
  have hpartition := isPartition_groupBy rs column
  refine ⟨hpartition, fun groups => ⟨fun h => h.unique hpartition, ?_⟩, ?_,
    fun _ _ => Grouping.get?_eq_some_iff, fun _ => Grouping.exists_get?_iff⟩
  · rintro rfl
    exact hpartition
  · intro g hg hnone
    have hkey := hpartition.key g hg
    rw [hnone] at hkey
    cases hkey

/-- Keys of all kinds: one as a number, as text and as a truth value, null that is there and that
is not, and what is not a number as itself and as text. -/
theorem groupBy_partitions_of_kinds :
    let one : Value := .number (.finite .one)
    let rows : Dataset := [⟨[("k", .text " 1.0")]⟩, ⟨[("j", one)]⟩, ⟨[("k", .number .nan)]⟩, ⟨[("k", .bool true)]⟩,
      ⟨[("k", .null), ("j", one)]⟩, ⟨[("k", .text "NaN")]⟩, ⟨[("j", .null), ("k", one)]⟩]
    let first : Group := ⟨.text " 1.0", [⟨[("k", .text " 1.0")]⟩, ⟨[("k", .bool true)]⟩, ⟨[("j", .null), ("k", one)]⟩]⟩
    let groups : List Group := [first, ⟨.null, [⟨[("j", one)]⟩, ⟨[("k", .null), ("j", one)]⟩]⟩,
      ⟨.number .nan, [⟨[("k", .number .nan)]⟩, ⟨[("k", .text "NaN")]⟩]⟩]
    (Dataset.groupBy rows "k").groups = groups ∧ IsPartition "k" rows groups ∧ first.records ≠ [] ∧
      (Dataset.groupBy rows "k").get? (.text "1e0") = some first ∧
      ¬∃ g, (Dataset.groupBy rows "k").get? (.text "2") = some g := by
  intro one rows first groups
  obtain ⟨-, hunique, hnonempty, hget, hfound⟩ := groupBy_partitions rows "k"
  have hgroups : groups = (Dataset.groupBy rows "k").groups := by decide +kernel
  have hfirst : first ∈ (Dataset.groupBy rows "k").groups := hgroups ▸ List.mem_cons_self
  exact ⟨hgroups.symm, (hunique groups).2 hgroups, hnonempty first hfirst,
    (hget _ first).2 ⟨hfirst, by decide +kernel⟩, mt (hfound (.text "2")).1 (by decide +kernel)⟩

end RowQuery
