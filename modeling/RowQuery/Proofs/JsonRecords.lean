import RowQuery.Loading
import RowQuery.Proofs.JsonDouble
import RowQuery.Proofs.JsonReader
/-!
# A dataset loads back from its JSON text

Every value of a record is written as a scalar, and each kind of scalar is read back; numbers
come back as far as JSON text can hold them. So a dataset is read back from its text, and the
layout it was written in makes no difference.
-/

namespace RowQuery

/-! ## Numbers -/

namespace FiniteDouble

/-- The number is integral and less than `9 * 10 ^ 15` away from zero. -/
def IsShortIntegral (x : FiniteDouble) : Prop := ∃ n < integerLimit, x.absUnits = n * Double.unitsPerOne

theorem integer?_eq_none {x : FiniteDouble} : x.integer? = none ↔ ¬x.IsShortIntegral := by
  have hshort : x.IsShortIntegral ↔
      x.absUnits % Double.unitsPerOne = 0 ∧ x.absUnits / Double.unitsPerOne < integerLimit := by
    constructor
    · rintro ⟨n, hn, hunits⟩
      rw [hunits, Nat.mul_mod_left, Nat.mul_div_cancel n Double.unitsPerOne_pos]
      exact ⟨rfl, hn⟩
    · rintro ⟨hmod, hlt⟩
      exact ⟨_, hlt, (Nat.div_mul_cancel (Nat.dvd_of_mod_eq_zero hmod)).symm⟩
  rw [hshort, integer?]
  split
  next h => exact iff_of_false (Option.some_ne_none _) (not_not.2 h)
  next h => exact iff_of_true rfl h

theorem natAbs_lt_of_integer? {x : FiniteDouble} {n : Int} (h : x.integer? = some n) : n.natAbs < integerLimit := by
  obtain ⟨m, hm, hunits⟩ : x.IsShortIntegral := by
    by_contra hlong
    rw [integer?_eq_none.2 hlong] at h
    cases h
  rw [(of_integer? h).1] at hunits
  exact Nat.eq_of_mul_eq_mul_right Double.unitsPerOne_pos hunits ▸ hm

/-- An integral number is the number of the integer it is written as, up to the sign of zero. -/
theorem toDouble_of_integer? {x : FiniteDouble} {n : Int} (h : x.integer? = some n) :
    (Json.Number.integer n).toDouble = .finite x.normalizeZero := by
  obtain ⟨hunits, hsign⟩ := of_integer? h
  rw [Json.Number.toDouble]
  by_cases hn : n = 0
  · rw [hn, normalizeZero_of_zero (by rw [hunits, hn, Int.natAbs_zero, Nat.zero_mul])]
    decide +kernel
  · have hne : x.absUnits ≠ 0 := by
      rw [hunits]
      exact Nat.mul_ne_zero (Int.natAbs_ne_zero.2 hn) (Nat.ne_of_gt Double.unitsPerOne_pos)
    rw [hsign hn, normalizeZero_of_absUnits hne]
    exact Double.ofRatio_of_units x Nat.one_pos (by rw [hunits, Nat.mul_one])

end FiniteDouble

/-! ## Values -/

namespace Value

/-- What is loaded where a value was written: a number that is not finite is null, a short
integral number loses the sign of zero, and any other number is what its digits are read as. -/
def LoadsAs : Value → Value → Prop
  | .number (.finite x), loaded =>
    (x.IsShortIntegral → loaded = .number (.finite x.normalizeZero)) ∧
      (¬x.IsShortIntegral → ∃ l y, Json.Numeral.take? (Json.doubleText x) = some (l, []) ∧
        l.number? = some (.double y) ∧ loaded = .number (.finite y))
  | .number _, loaded => loaded = .null
  | value, loaded => loaded = value

/-- A finite number is written as an integer or as a double, and read as one again. -/
theorem exists_readsAs_finite (x : FiniteDouble) :
    ∃ n : Json.Number, (∀ layout indent depth,
      Json.ReadsAs (Json.valueAt? depth) (Json.render layout indent (number (.finite x)).toJson) (.number n)) ∧
      (number (.finite x)).LoadsAs (.number n.toDouble) := by
  rw [toJson]
  cases hint : x.integer? with
  | some n =>
    have hlimit : n.natAbs < 2 ^ 63 := Nat.lt_trans (FiniteDouble.natAbs_lt_of_integer? hint) (by decide)
    obtain ⟨l, hl, htext, hn⟩ := Json.Numeral.exists_spelled_integer hlimit
    refine ⟨.integer n, fun layout indent depth => Json.readsAs_number layout indent depth hl htext hn, ?_, ?_⟩
    · exact fun _ => congrArg number (FiniteDouble.toDouble_of_integer? hint)
    · intro hlong
      rw [FiniteDouble.integer?_eq_none.2 hlong] at hint
      cases hint
  | none =>
    obtain ⟨l, y, hl, htext, hy⟩ := Json.Numeral.exists_spelled_double hint
    refine ⟨.double y, fun layout indent depth => Json.readsAs_number layout indent depth hl htext hy, ?_, ?_⟩
    · exact fun hshort => absurd hshort (FiniteDouble.integer?_eq_none.1 hint)
    · have htake := Json.Numeral.take?_spelled hl Json.Numeral.stops_nil
      rw [List.append_nil, ← htext] at htake
      exact fun _ => ⟨l, y, htake, hy, rfl⟩

/-- Every value is written so that it can be read, in both layouts and at every depth. -/
theorem exists_readsAs (v : Value) :
    ∃ read, (∀ layout indent depth, Json.ReadsAs (Json.valueAt? depth) (Json.render layout indent v.toJson) read) ∧
      v.LoadsAs (Value.ofJson read) := by
  cases v with
  | null => exact ⟨.null, Json.readsAs_null, rfl⟩
  | bool b => exact ⟨.bool b, fun layout indent depth => Json.readsAs_bool layout indent depth b, rfl⟩
  | text s => exact ⟨.string s, fun layout indent depth => Json.readsAs_string layout indent depth s, rfl⟩
  | number x =>
    cases x with
    | nan => exact ⟨.null, Json.readsAs_null, rfl⟩
    | infinity negative => exact ⟨.null, Json.readsAs_null, rfl⟩
    | finite x =>
      obtain ⟨n, hread, hloads⟩ := exists_readsAs_finite x
      exact ⟨.number n, hread, hloads⟩

end Value

/-! ## Records -/

theorem Record.ofJson_object {entries : List (String × Json)} (h : (entries.map (·.1)).Nodup) :
    Record.ofJson (.object entries) = .ok ⟨entries.map fun entry => (entry.1, Value.ofJson entry.2)⟩ := by
  have hnames : ((entries.map fun entry => (entry.1, Value.ofJson entry.2)).map (·.1)).Nodup := by
    simpa [Function.comp_def] using h
  rw [Record.ofJson, Record.ofList, Record.setAll, Record.empty, setEntries_nil hnames]

theorem mapM_of_forall₂ {α β ε : Type} {f : α → Except ε β} {l : List α} {m : List β}
    (h : List.Forall₂ (fun a b => f a = .ok b) l m) : l.mapM f = .ok m := by
  induction h with
  | nil => rfl
  | cons hfirst _ ih =>
    rw [List.mapM_cons, hfirst, ih]
    rfl

/-- A record is written so that it can be read if every value is. -/
theorem Record.readsAs_toJson {r : Record} (h : r.columns.Nodup) {read : Value → Json} {layout : Json.Layout}
    (hread : ∀ v indent depth, Json.ReadsAs (Json.valueAt? depth) (Json.render layout indent v.toJson) (read v))
    (indent depth : Nat) :
    Json.ReadsAs (Json.valueAt? (depth + 1)) (Json.render layout indent r.toJson)
      (.object (r.entries.map fun e => (e.1, read e.2))) := by
  refine Json.readsAs_object ?_ ?_
  · rw [List.forall₂_map_left_iff, List.forall₂_map_right_iff, List.forall₂_same]
    exact fun e _ => ⟨rfl, hread e.2 _ depth⟩
  · simpa [Function.comp_def, Record.columns] using h

/-- The JSON text of a dataset loads as the same records with the same columns, in either layout,
and every value comes back as one that JSON can hold. -/
theorem Dataset.json_loads_back (rs : Dataset) (h : ∀ r ∈ rs, r.columns.Nodup) :
    ∃ loaded, (∀ layout, Dataset.ofText ((Dataset.toJson rs).text layout) = .ok loaded) ∧
      List.Forall₂ (fun r s => List.Forall₂ (fun e f => f.1 = e.1 ∧ e.2.LoadsAs f.2) r.entries s.entries)
        rs loaded := by
  choose read hread hloads using Value.exists_readsAs
  refine ⟨rs.map fun r => ⟨r.entries.map fun e => (e.1, Value.ofJson (read e.2))⟩, fun layout => ?_, ?_⟩
  -- The array and the objects in it take two of the depths that the reader allows.
  · have hreads : List.Forall₂ (fun item read => Json.ReadsAs (Json.valueAt? 126) (Json.render layout 1 item) read)
        (rs.map Record.toJson) (rs.map fun r => .object (r.entries.map fun e => (e.1, read e.2))) := by
      rw [List.forall₂_map_left_iff, List.forall₂_map_right_iff, List.forall₂_same]
      exact fun r hr => Record.readsAs_toJson (h r hr) (fun v => hread v layout) 1 125
    have hrecords : List.Forall₂ (fun item s => Record.ofJson item = .ok s)
        (rs.map fun r => .object (r.entries.map fun e => (e.1, read e.2)))
        (rs.map fun r => ⟨r.entries.map fun e => (e.1, Value.ofJson (read e.2))⟩) := by
      rw [List.forall₂_map_left_iff, List.forall₂_map_right_iff, List.forall₂_same]
      intro r hr
      rw [Record.ofJson_object (by simpa [Function.comp_def, Record.columns] using h r hr), List.map_map]
      rfl
    have hparse := Json.parse?_of_readsAs (Json.readsAs_array hreads)
    rw [Dataset.ofText, Json.text, String.toList_ofList, Dataset.toJson, hparse]
    simp only [Dataset.ofJson, mapM_of_forall₂ hrecords]
  · rw [List.forall₂_map_right_iff, List.forall₂_same]
    intro r _
    rw [List.forall₂_map_right_iff, List.forall₂_same]
    exact fun e _ => ⟨rfl, hloads e.2⟩

/-- Escapes and a control character in a text, an empty name, `-0`, a tenth, the largest number and
what is not a number. -/
theorem Dataset.json_loads_back_of_scalars :
    let first : Record := ⟨[("", .text "\"\\\n\x00é"), ("zero", .number (.finite ⟨true, 0⟩)), ("none", .null)]⟩
    let second : Record := ⟨[("tenth", .number (.finite ⟨false, 0x3FB999999999999A, by decide⟩)), ("nan", .number .nan),
      ("last", .number (.finite ⟨true, Double.magnitudeCount - 1, by decide⟩)), ("flag", .bool false)]⟩
    (∀ r ∈ [first, second], r.columns.Nodup) ∧
      ∃ loaded, (∀ layout, Dataset.ofText ((Dataset.toJson [first, second]).text layout) = .ok loaded) ∧
        List.Forall₂ (fun r s => List.Forall₂ (fun e f => f.1 = e.1 ∧ e.2.LoadsAs f.2) r.entries s.entries)
          [first, second] loaded := by
  intro first second
  have hcolumns : ∀ r ∈ [first, second], r.columns.Nodup := by decide
  exact ⟨hcolumns, Dataset.json_loads_back [first, second] hcolumns⟩

end RowQuery
