import RowQuery.Directory
import RowQuery.Proofs.Lookup
import RowQuery.Shell.Action
/-!
# The join is a nested loop

What a join yields, said without an index: for every local record, in order, all foreign
records are gone through, and each that matches is merged into it. A join by index yields just
this (`Dataset.join_eq_flatMap`), since a lookup in the index is the same filter on the
foreign records. A missing key column counts as null, and null matches null alone.
-/

namespace RowQuery

namespace Value

theorem looselyEqual_comm (a b : Value) : a.looselyEqual b = b.looselyEqual a := by
  rw [looselyEqual_eq_key, looselyEqual_eq_key]
  exact decide_eq_decide.2 eq_comm

theorem key_eq_null_iff {v : Value} : v.key = .null ↔ v = null := by
  constructor
  · intro h
    rcases v.kinds with hnull | ⟨x, -, hx⟩ | ⟨hne, hx⟩
    · exact hnull
    · rw [key_of_numeric? hx] at h
      cases h
    · rw [key_of_text hne hx] at h
      cases h
  · rintro rfl
    rfl

/-- Nothing but null is loosely equal to null. -/
theorem looselyEqual_null_iff {v : Value} : null.looselyEqual v = true ↔ v = null := by
  rw [looselyEqual_iff, eq_comm]
  exact key_eq_null_iff

end Value

theorem Record.resolve_of_not_contains {r : Record} {column : String} (h : r.contains column = false) :
    r.resolve column = .null := by
  have hnone : r.get? column = none := by
    simpa [get?, contains] using h
  rw [resolve, hnone]
  rfl

namespace Join

/-- A local and a foreign record belong together. -/
def Matches (j : Join) (l f : Record) : Bool :=
  (l.resolve j.localKey).looselyEqual (f.resolve j.foreignKey)

/-- The results for a local record: it is merged with each foreign record that matches, in
their order. Where there is none, a left join keeps it with nulls. -/
def nestedRows (j : Join) (l : Record) : Dataset :=
  let merged := (j.foreign.filter (j.Matches l)).map (j.merge l)
  if merged = [] ∧ j.kind = .left then [j.padWithNulls l] else merged

/-- The records that the index has for a local record are those that match. -/
theorem withValue_localKey (j : Join) (l : Record) :
    Dataset.withValue j.foreign j.foreignKey (l.resolve j.localKey) = j.foreign.filter (j.Matches l) := by
  refine List.filter_congr fun f _ => ?_
  exact Value.looselyEqual_comm _ _

theorem rowsFor_matches (j : Join) (l : Record) :
    j.rowsFor l (j.foreign.filter (j.Matches l)) = j.nestedRows l := by
  rw [rowsFor, nestedRows]
  by_cases hnone : j.foreign.filter (j.Matches l) = []
  · cases hkind : j.kind <;> simp [hnone]
  · simp [hnone]

/-- Without its key column a local record matches the foreign records whose key is null. -/
theorem matches_of_missing_local {j : Join} {l : Record} (h : l.contains j.localKey = false) (f : Record) :
    j.Matches l f = true ↔ f.resolve j.foreignKey = .null := by
  rw [Matches, Record.resolve_of_not_contains h]
  exact Value.looselyEqual_null_iff

/-- Without its key column a foreign record matches the local records whose key is null. -/
theorem matches_of_missing_foreign {j : Join} {f : Record} (h : f.contains j.foreignKey = false) (l : Record) :
    j.Matches l f = true ↔ l.resolve j.localKey = .null := by
  rw [Matches, Record.resolve_of_not_contains h, Value.looselyEqual_comm]
  exact Value.looselyEqual_null_iff

end Join

theorem Dataset.join_eq_flatMap (rs : Dataset) (j : Join) : rs.join j = rs.flatMap j.nestedRows := by
  rw [Dataset.join]
  refine List.flatMap_congr fun l _ => ?_
  rw [JoinIndex.lookup_build, j.withValue_localKey, j.rowsFor_matches]

/-- A typed join whose file can be loaded is carried out, whatever operator it names. -/
theorem Shell.Command.endsIn_join {Files : Type} [FileSystem Files] {p : Pipeline} {j : Join} {files : Files}
    {path : String} (operator output : String) (h : ((Dataset.load path).runOn files).1 = .ok j.foreign) :
    ((Command.join path j.localKey operator j.foreignKey j.kind j.alias?).run).endsIn ⟨p, output⟩ files =
      ((.ok true, ⟨p.join j, output ++ rowCount (p.join j).current.length⟩), files) := by
  rw [run, Job.endsIn_bind, Job.endsIn_ofFiles, h]
  rfl

/-- **The join by index is the nested loop.** Every local record, in order, is merged with
each foreign record that matches it, in order; one without a match is padded with nulls by a
left join and left out by an inner one. The operator named in a typed join plays no part. A
record without its key column has the key null: it matches the null keys on the other side,
and so the other records without one. -/
theorem join_eq_nestedLoop (p : Pipeline) (j : Join) :
    (p.join j).current = p.current.flatMap j.nestedRows ∧
      (∀ (Files : Type) [FileSystem Files] (files : Files) (operator path output : String),
        ((Dataset.load path).runOn files).1 = .ok j.foreign →
          ((Shell.Command.join path j.localKey operator j.foreignKey j.kind j.alias?).run).endsIn
              ⟨p, output⟩ files =
            ((.ok true, ⟨p.join j, output ++ rowCount (p.join j).current.length⟩), files)) ∧
      (∀ l f : Record, l.contains j.localKey = false →
        (j.Matches l f = true ↔ f.resolve j.foreignKey = .null)) ∧
      (∀ l f : Record, f.contains j.foreignKey = false →
        (j.Matches l f = true ↔ l.resolve j.localKey = .null)) ∧
      ∀ l f : Record, l.contains j.localKey = false → f.contains j.foreignKey = false →
        j.Matches l f = true := by
  refine ⟨Dataset.join_eq_flatMap _ _, ?_, ?_, ?_, ?_⟩
  · intro Files _ files operator path output hload
    exact Shell.Command.endsIn_join operator output hload
  · intro l f hl
    exact Join.matches_of_missing_local hl f
  · intro l f hf
    exact Join.matches_of_missing_foreign hf l
  · intro l f hl hf
    exact (Join.matches_of_missing_local hl f).2 (Record.resolve_of_not_contains hf)

/-- Keys of several kinds, two records without a key, and one without a match. -/
theorem join_eq_nestedLoop_of_missing_keys :
    let foreign : Dataset := [⟨[("uid", .text "1.0"), ("v", .text "a")]⟩, ⟨[("v", .text "b")]⟩,
      ⟨[("uid", .bool true), ("v", .text "c")]⟩]
    let j : Join := { foreign, localKey := "id", foreignKey := "uid", kind := .left, alias? := some "f" }
    let p : Pipeline := .ofDataset
      [⟨[("id", .number (.finite .one))]⟩, ⟨[("name", .text "x")]⟩, ⟨[("id", .text "2")]⟩] .standard
    let d : Directory := ⟨[("f.json",
      "[\x7b\"uid\": \"1.0\", \"v\": \"a\"\x7d, \x7b\"v\": \"b\"\x7d, \x7b\"uid\": true, \"v\": \"c\"\x7d]".toUTF8)]⟩
    (p.join j).current =
        [⟨[("id", .number (.finite .one)), ("f.uid", .text "1.0"), ("f.v", .text "a")]⟩,
          ⟨[("id", .number (.finite .one)), ("f.uid", .bool true), ("f.v", .text "c")]⟩,
          ⟨[("name", .text "x"), ("f.v", .text "b")]⟩,
          ⟨[("id", .text "2"), ("f.uid", .null), ("f.v", .null)]⟩] ∧
      ((Dataset.load "f.json").runOn d).1 = .ok foreign ∧
      ((Shell.Command.join "f.json" "id" ">" "uid" .left (some "f")).run).endsIn ⟨p, ""⟩ d =
        ((.ok true, ⟨p.join j, "(4 rows)\n"⟩), d) ∧
      j.Matches ⟨[("name", .text "x")]⟩ ⟨[("v", .text "b")]⟩ = true := by
  intro foreign j p d
  obtain ⟨hcurrent, htyped, -, -, hmissing⟩ := join_eq_nestedLoop p j
  have hload : ((Dataset.load "f.json").runOn d).1 = .ok foreign := by
    have hread : ((Dataset.load "f.json").runOn d).1.toOption = some foreign := by decide +kernel
    cases hresult : ((Dataset.load "f.json").runOn d).1 with
    | error e =>
      rw [hresult] at hread
      cases hread
    | ok rs =>
      rw [hresult] at hread
      exact congrArg _ (Option.some.inj hread)
  have hcount : "" ++ rowCount (p.join j).current.length = "(4 rows)\n" := by decide +kernel
  have hjoin := htyped Directory d ">" "f.json" "" hload
  rw [hcount] at hjoin
  refine ⟨?_, hload, hjoin, hmissing _ _ (by decide) (by decide)⟩
  rw [hcurrent]
  decide +kernel

end RowQuery
