import RowQuery.Dataset.Grouping
import RowQuery.Dataset.Join
import RowQuery.Proofs.ValueOrder
/-!
# Lookup by key

The index of a join and the groups of a column are each built by one scan, which puts a
record into the bucket of its key. Looking a value up in the index is a filter by loose
equality (`JoinIndex.lookup_build`). The groups are the buckets of the index, with the first
value of each key kept beside it (`Grouping.buckets_groupBy`), so a group is the same filter
and there are as many groups as keys.
-/

namespace RowQuery

theorem Value.looselyEqual_eq_key (a b : Value) : a.looselyEqual b = decide (a.key = b.key) := by
  rw [Bool.eq_iff_iff, decide_eq_true_iff, ← compareByKind_eq_iff]
  simp [looselyEqual]

theorem Value.looselyEqual_iff {a b : Value} : a.looselyEqual b = true ↔ a.key = b.key := by
  rw [looselyEqual_eq_key, decide_eq_true_iff]

theorem Value.looselyEqual_eq_false_iff {a b : Value} : a.looselyEqual b = false ↔ a.key ≠ b.key := by
  rw [looselyEqual_eq_key, decide_eq_false_iff_not]

/-- The records with a value loosely equal to `v` in a column, in their order. -/
def Dataset.withValue (rs : Dataset) (column : String) (v : Value) : Dataset :=
  rs.filter fun r => (r.resolve column).looselyEqual v

/-! ## The index -/

namespace JoinIndex

/-- What the bucket of a key holds; nothing if there is none. -/
def recordsOf (key : Value.Key) (buckets : List (Value.Key × Dataset)) : Dataset :=
  ((buckets.find? (·.1 = key)).map (·.2)).getD []

theorem recordsOf_cons (key : Value.Key) (bucket : Value.Key × Dataset)
    (buckets : List (Value.Key × Dataset)) :
    recordsOf key (bucket :: buckets) = if bucket.1 = key then bucket.2 else recordsOf key buckets := by
  unfold recordsOf
  by_cases h : bucket.1 = key
  · simp [h]
  · simp [h]

/-- One step of the scan: the record is appended in the bucket of its key, and in no other. -/
theorem recordsOf_addToBucket (key k : Value.Key) (r : Record) (buckets : List (Value.Key × Dataset)) :
    recordsOf key (addToBucket k r buckets) = recordsOf key buckets ++ if k = key then [r] else [] := by
  induction buckets with
  | nil =>
    rw [addToBucket, recordsOf_cons]
    rfl
  | cons bucket buckets ih =>
    rw [addToBucket]
    by_cases hbucket : bucket.1 = k
    · rw [if_pos hbucket, recordsOf_cons, recordsOf_cons, hbucket]
      by_cases hkey : k = key
      · simp [hkey]
      · simp [hkey]
    · rw [if_neg hbucket, recordsOf_cons, recordsOf_cons, ih]
      by_cases hkey : bucket.1 = key
      · have hk : k ≠ key := fun hk => hbucket (hkey.trans hk.symm)
        simp [hkey, hk]
      · simp [hkey]

/-- The whole scan, from any buckets: each key gets its records in the order of the dataset. -/
theorem recordsOf_scan (key : Value.Key) (column : String) (rs : Dataset)
    (buckets : List (Value.Key × Dataset)) :
    recordsOf key (rs.foldl (fun buckets r => addToBucket (r.resolve column).key r buckets) buckets) =
      recordsOf key buckets ++ rs.filter fun r => (r.resolve column).key = key := by
  induction rs generalizing buckets with
  | nil => simp
  | cons r rs ih =>
    rw [List.foldl_cons, ih, recordsOf_addToBucket, List.append_assoc, List.filter_cons]
    by_cases h : (r.resolve column).key = key
    · simp [h]
    · simp [h]

theorem lookup_build (rs : Dataset) (column : String) (v : Value) :
    (build rs column).lookup v = rs.withValue column v := by
  have h := recordsOf_scan v.key column rs []
  rw [show recordsOf v.key [] = [] from rfl, List.nil_append] at h
  simp only [Dataset.withValue, Value.looselyEqual_eq_key]
  exact h

end JoinIndex

/-! ## The groups -/

/-- The bucket of a group: its key, and its records. -/
def Group.bucket (g : Group) : Value.Key × Dataset := (g.key.key, g.records)

namespace Grouping

theorem map_bucket_addToGroup (v : Value) (r : Record) (groups : List Group) :
    (addToGroup v r groups).map Group.bucket = JoinIndex.addToBucket v.key r (groups.map Group.bucket) := by
  induction groups with
  | nil => rfl
  | cons g groups ih =>
    rw [addToGroup, List.map_cons, JoinIndex.addToBucket]
    by_cases h : g.key.key = v.key
    · rw [if_pos h, if_pos (show g.bucket.1 = v.key from h), List.map_cons, ← h]
      rfl
    · rw [if_neg h, if_neg (show g.bucket.1 ≠ v.key from h), List.map_cons, ih]

/-- Grouping and indexing are one scan. -/
theorem buckets_groupBy (rs : Dataset) (column : String) :
    (rs.groupBy column).groups.map Group.bucket = (JoinIndex.build rs column).buckets := by
  have h : ∀ groups : List Group,
      (rs.foldl (fun groups r => addToGroup (r.resolve column) r groups) groups).map Group.bucket =
        rs.foldl (fun buckets r => JoinIndex.addToBucket (r.resolve column).key r buckets)
          (groups.map Group.bucket) := by
    induction rs with
    | nil => exact fun _ => rfl
    | cons r rs ih =>
      intro groups
      rw [List.foldl_cons, List.foldl_cons, ih, map_bucket_addToGroup]
  exact h []

/-- There are as many groups as keys in the index. -/
theorem size_groupBy (rs : Dataset) (column : String) :
    (rs.groupBy column).size = (JoinIndex.build rs column).keyCount := by
  rw [size, JoinIndex.keyCount, ← buckets_groupBy, List.length_map]

/-- The records of a group, where a value without one has none, are what the index has. -/
theorem records_get? (rs : Dataset) (column : String) (v : Value) :
    ((rs.groupBy column).get? v).elim [] (·.records) = rs.withValue column v := by
  rw [← JoinIndex.lookup_build, JoinIndex.lookup, ← buckets_groupBy, List.find?_map, get?]
  show Option.elim ((rs.groupBy column).groups.find? fun g => g.key.key = v.key) [] (·.records) =
    (((((rs.groupBy column).groups.find? fun g => g.key.key = v.key)).map Group.bucket).map (·.2)).getD []
  cases (rs.groupBy column).groups.find? fun g => g.key.key = v.key <;> rfl

end Grouping

end RowQuery
