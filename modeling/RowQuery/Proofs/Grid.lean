import RowQuery.Csv
import Mathlib
/-!
# A table is read back as its grid

A reader of delimited rows: fields stand between delimiters, and a row ends with its line
break. A field between quotes may hold anything, a quote in it being doubled; outside quotes
neither a quote nor a carriage return can stand. `Dataset.csv?_reads_back` says that reading
what was written gives the grid that was meant, whatever the texts and the delimiter are.

The reader goes field by field and row by row, and each of its passes stops in front of what
follows. So each lemma is about something written with more text behind it, and the next one
only puts these together.
-/

namespace RowQuery

namespace Csv

/-! ## The reader -/

/-- The bytes that have a meaning outside quotes. -/
def isMark (delimiter b : UInt8) : Bool :=
  b == delimiter || b == quote || b == lineFeed || b == carriageReturn

/-- Reads a field behind its opening quote: its bytes, and what follows the closing quote. -/
def takeQuoted? : List UInt8 → Option (List UInt8 × List UInt8)
  | [] => none
  | [b] => if b = quote then some ([], []) else none
  | b :: c :: bytes =>
    if b = quote then
      if c = quote then (takeQuoted? bytes).map fun (field, rest) => (quote :: field, rest)
      else some ([], c :: bytes)
    else (takeQuoted? (c :: bytes)).map fun (field, rest) => (b :: field, rest)

/-- Reads a field: its bytes, and what follows it. -/
def takeField? (delimiter : UInt8) (bytes : List UInt8) : Option (List UInt8 × List UInt8) :=
  match bytes with
  | [] => some ([], [])
  | b :: rest =>
    if b = quote then takeQuoted? rest
    else some (bytes.takeWhile (!isMark delimiter ·), bytes.dropWhile (!isMark delimiter ·))

theorem length_lt_of_takeQuoted? {bytes field rest : List UInt8}
    (h : takeQuoted? bytes = some (field, rest)) : rest.length < bytes.length := by
  fun_induction takeQuoted? bytes generalizing field rest with
  | case1 | case3 => cases h
  | case2 | case5 =>
    cases h
    simp
  | case4 bytes ih =>
    obtain ⟨⟨_, _⟩, hfield, h⟩ := Option.map_eq_some_iff.1 h
    cases h
    have := ih hfield
    simp only [List.length_cons]
    omega
  | case6 b c bytes hb ih =>
    obtain ⟨⟨_, _⟩, hfield, h⟩ := Option.map_eq_some_iff.1 h
    cases h
    have := ih hfield
    simp only [List.length_cons] at *
    omega

theorem length_le_of_takeField? {delimiter : UInt8} {bytes field rest : List UInt8}
    (h : takeField? delimiter bytes = some (field, rest)) : rest.length ≤ bytes.length := by
  unfold takeField? at h
  split at h
  · cases h
    exact Nat.le_refl _
  · split at h
    · exact Nat.le_succ_of_le (Nat.le_of_lt (length_lt_of_takeQuoted? h))
    · cases h
      exact length_dropWhile_le _ _

/-- Reads a row: its fields, and what follows its line break. The last row may lack one. -/
def takeRow? (delimiter : UInt8) (bytes : List UInt8) :
    Option (List (List UInt8) × List UInt8) :=
  match h : takeField? delimiter bytes with
  | none => none
  | some (field, []) => some ([field], [])
  | some (field, b :: rest) =>
    have := length_le_of_takeField? h
    if b = delimiter then
      (takeRow? delimiter rest).map fun (fields, rest) => (field :: fields, rest)
    else if b = lineFeed then some ([field], rest)
    else none
termination_by bytes.length

theorem length_le_of_takeRow? {delimiter : UInt8} {bytes rest : List UInt8} {fields : List (List UInt8)}
    (h : takeRow? delimiter bytes = some (fields, rest)) : rest.length ≤ bytes.length - 1 := by
  fun_induction takeRow? delimiter bytes generalizing fields rest with
  | case1 | case5 => cases h
  | case2 =>
    cases h
    exact Nat.zero_le _
  | case3 bytes field tail htake hlen ih =>
    obtain ⟨⟨_, _⟩, hrow, h⟩ := Option.map_eq_some_iff.1 h
    cases h
    have := ih hrow
    simp only [List.length_cons] at hlen
    omega
  | case4 bytes field tail htake hlen =>
    cases h
    simp only [List.length_cons] at hlen
    omega

/-- Reads all rows. -/
def rows? (delimiter : UInt8) (bytes : List UInt8) : Option (List (List (List UInt8))) :=
  match bytes with
  | [] => some []
  | b :: tail =>
    match h : takeRow? delimiter (b :: tail) with
    | none => none
    | some (row, rest) =>
      have : rest.length ≤ tail.length := length_le_of_takeRow? h
      (rows? delimiter rest).map (row :: ·)
termination_by bytes.length

/-- The text of bytes in UTF-8. -/
def textOf? (bytes : List UInt8) : Option String := String.fromUTF8? ⟨bytes.toArray⟩

/-- The rows of a table, with their texts. -/
def read? (delimiter : UInt8) (bytes : List UInt8) : Option (List (List String)) := do
  (← rows? delimiter bytes).mapM (·.mapM textOf?)

/-! ## The passes of the reader -/

variable {delimiter : UInt8}

theorem takeQuoted?_doubled (bytes : List UInt8) {rest : List UInt8} (h : rest.head? ≠ some quote) :
    takeQuoted? (bytes.flatMap (fun b => if b = quote then [quote, quote] else [b]) ++ quote :: rest) =
      some (bytes, rest) := by
  induction bytes with
  | nil =>
    cases rest with
    | nil => rfl
    | cons c rest =>
      have hc : c ≠ quote := fun he => h (congrArg some he)
      simp [takeQuoted?, hc]
  | cons b bytes ih =>
    rw [List.flatMap_cons, List.append_assoc]
    by_cases hb : b = quote
    · subst hb
      rw [if_pos rfl, List.cons_append, List.cons_append, List.nil_append, takeQuoted?, if_pos rfl, if_pos rfl, ih]
      rfl
    · rw [if_neg hb, List.cons_append, List.nil_append]
      -- The reader looks at two bytes at a time, so what follows has to show its first one.
      obtain ⟨c, tail, htail⟩ : ∃ c tail,
          bytes.flatMap (fun b => if b = quote then [quote, quote] else [b]) ++ quote :: rest = c :: tail :=
        List.exists_cons_of_ne_nil (by simp)
      rw [htail] at ih ⊢
      rw [takeQuoted?, if_neg hb, ih]
      rfl

theorem takeField?_of_head {bytes : List UInt8} (h : bytes.head? ≠ some quote) :
    takeField? delimiter bytes =
      some (bytes.takeWhile (!isMark delimiter ·), bytes.dropWhile (!isMark delimiter ·)) := by
  cases bytes with
  | nil => rfl
  | cons b bytes =>
    have hb : b ≠ quote := fun he => h (congrArg some he)
    rw [takeField?, if_neg hb]

theorem takeRow?_of_delimiter {bytes field rest : List UInt8}
    (h : takeField? delimiter bytes = some (field, delimiter :: rest)) :
    takeRow? delimiter bytes =
      (takeRow? delimiter rest).map fun (fields, rest) => (field :: fields, rest) := by
  rw [takeRow?]
  split
  next heq => rw [h] at heq; cases heq
  next heq => rw [h] at heq; cases heq
  next heq =>
    rw [h] at heq
    cases heq
    rw [if_pos rfl]

theorem takeRow?_of_lineFeed {bytes field rest : List UInt8} (hfeed : delimiter ≠ lineFeed)
    (h : takeField? delimiter bytes = some (field, lineFeed :: rest)) :
    takeRow? delimiter bytes = some ([field], rest) := by
  rw [takeRow?]
  split
  next heq => rw [h] at heq; cases heq
  next heq => rw [h] at heq; cases heq
  next heq =>
    rw [h] at heq
    cases heq
    rw [if_neg hfeed.symm, if_pos rfl]

theorem rows?_of_takeRow? {bytes rest : List UInt8} {fields : List (List UInt8)} (hne : bytes ≠ [])
    (h : takeRow? delimiter bytes = some (fields, rest)) :
    rows? delimiter bytes = (rows? delimiter rest).map (fields :: ·) := by
  obtain ⟨b, tail, rfl⟩ := List.exists_cons_of_ne_nil hne
  rw [rows?]
  split
  next heq => rw [h] at heq; cases heq
  next heq =>
    rw [h] at heq
    cases heq
    rfl

/-! ## Fields -/

/-- What may follow a field: a delimiter or a line break. -/
def Follows (delimiter : UInt8) (rest : List UInt8) : Prop :=
  ∃ b tail, rest = b :: tail ∧ (b = delimiter ∨ b = lineFeed)

theorem Follows.head_ne_quote (hquote : delimiter ≠ quote) {rest : List UInt8} (h : Follows delimiter rest) :
    rest.head? ≠ some quote := by
  obtain ⟨b, tail, rfl, hb⟩ := h
  intro he
  obtain rfl := Option.some.inj he
  rcases hb with hb | hb
  · exact hquote hb.symm
  · exact absurd hb (by decide)

/-- A written field is read back, quoted or not. -/
theorem takeField?_field (hquote : delimiter ≠ quote) (bytes : List UInt8) {rest : List UInt8}
    (h : Follows delimiter rest) :
    takeField? delimiter (field delimiter bytes ++ rest) = some (bytes, rest) := by
  have hhead := h.head_ne_quote hquote
  unfold field
  split
  next =>
    rw [List.append_assoc, List.singleton_append, List.cons_append, takeField?, if_pos rfl]
    exact takeQuoted?_doubled bytes hhead
  next hplain =>
    have hbytes : ∀ b ∈ bytes, (!isMark delimiter b) = true := by
      simpa [needsQuotes, isMark] using hplain
    obtain ⟨m, tail, rfl, hm⟩ := h
    have hmark : isMark delimiter m = true := by
      rcases hm with rfl | rfl <;> simp [isMark]
    have hfirst : (bytes ++ m :: tail).head? ≠ some quote := by
      cases bytes with
      | nil => exact hhead
      | cons b bytes =>
        intro he
        obtain rfl := Option.some.inj he
        exact absurd (hbytes quote List.mem_cons_self) (by simp [isMark])
    rw [takeField?_of_head hfirst, List.takeWhile_append_of_pos hbytes, List.dropWhile_append_of_pos hbytes]
    simp [hmark]

/-! ## Rows -/

/-- Only a single empty field makes an empty line. -/
theorem eq_nil_of_line_eq_nil {first : List UInt8} {others : List (List UInt8)}
    (h : [delimiter].intercalate ((first :: others).map (field delimiter)) = []) :
    first = [] ∧ others = [] := by
  cases others with
  | nil =>
    have hfield : field delimiter first = [] := by simpa using h
    unfold field at hfield
    split at hfield
    · cases hfield
    · exact ⟨hfield, rfl⟩
  | cons second others =>
    rw [List.map_cons, List.map_cons, List.intercalate_cons_cons, List.append_assoc,
      List.append_eq_nil_iff] at h
    exact absurd h.2 (by simp)

theorem row_ne_nil (fields : List (List UInt8)) : row delimiter fields ≠ [] := by
  simp [row]

section
variable (hquote : delimiter ≠ quote) (hfeed : delimiter ≠ lineFeed)

include hquote hfeed

/-- The fields of a row between delimiters are read back up to the line break. -/
theorem takeRow?_line (first : List UInt8) (others : List (List UInt8)) (rest : List UInt8) :
    takeRow? delimiter
        ([delimiter].intercalate ((first :: others).map (field delimiter)) ++ lineFeed :: rest) =
      some (first :: others, rest) := by
  induction others generalizing first with
  | nil =>
    refine takeRow?_of_lineFeed hfeed ?_
    simpa using takeField?_field hquote first ⟨lineFeed, rest, rfl, .inr rfl⟩
  | cons second others ih =>
    have hline : [delimiter].intercalate ((first :: second :: others).map (field delimiter)) =
        field delimiter first ++
          delimiter :: [delimiter].intercalate ((second :: others).map (field delimiter)) := by
      simp [List.intercalate_cons_cons]
    rw [hline, List.append_assoc, List.cons_append,
      takeRow?_of_delimiter (takeField?_field hquote first ⟨delimiter, _, rfl, .inl rfl⟩), ih]
    rfl

/-- A written row is read back. The one that would be empty is a row of one empty field. -/
theorem takeRow?_row {fields : List (List UInt8)} (hne : fields ≠ []) (rest : List UInt8) :
    takeRow? delimiter (row delimiter fields ++ rest) = some (fields, rest) := by
  obtain ⟨first, others, rfl⟩ := List.exists_cons_of_ne_nil hne
  unfold row
  dsimp only
  split
  next hempty =>
    obtain ⟨rfl, rfl⟩ := eq_nil_of_line_eq_nil hempty
    exact takeRow?_of_lineFeed hfeed (by simp [takeField?, takeQuoted?, show lineFeed ≠ quote by decide])
  next =>
    rw [List.append_assoc]
    exact takeRow?_line hquote hfeed first others rest

theorem rows?_rows {rows : List (List (List UInt8))} (hne : ∀ fields ∈ rows, fields ≠ []) :
    rows? delimiter (rows.flatMap (row delimiter)) = some rows := by
  induction rows with
  | nil => rw [List.flatMap_nil, rows?]
  | cons fields rows ih =>
    obtain ⟨hfields, hrows⟩ := List.forall_mem_cons.1 hne
    have hbytes : row delimiter fields ++ rows.flatMap (row delimiter) ≠ [] :=
      List.append_ne_nil_of_left_ne_nil (row_ne_nil fields) _
    rw [List.flatMap_cons, rows?_of_takeRow? hbytes (takeRow?_row hquote hfeed hfields _), ih hrows]
    rfl

end

/-! ## Texts -/

theorem textOf?_bytesOf (s : String) : textOf? (bytesOf s) = some s := by
  have hbytes : (⟨(bytesOf s).toArray⟩ : ByteArray) = s.toUTF8 := rfl
  rw [textOf?, hbytes, String.fromUTF8?]
  exact dif_pos s.isValidUTF8

theorem mapM_map_of_eq_some {α β : Type} {f : α → β} {g : β → Option α} (h : ∀ a, g (f a) = some a)
    (l : List α) : (l.map f).mapM g = some l := by
  have hread : g ∘ f = fun a => pure (id a) := funext h
  rw [List.mapM_map, hread, List.mapM_pure, List.map_id]
  rfl

/-- Rows of texts are read back, whatever the texts hold. -/
theorem read?_rows (hquote : delimiter ≠ quote) (hfeed : delimiter ≠ lineFeed)
    {rows : List (List String)} (hne : ∀ cells ∈ rows, cells ≠ []) :
    read? delimiter (rows.flatMap fun cells => row delimiter (cells.map bytesOf)) = some rows := by
  have hrows : rows? delimiter ((rows.map (·.map bytesOf)).flatMap (row delimiter)) =
      some (rows.map (·.map bytesOf)) := by
    refine rows?_rows hquote hfeed fun fields hfields => ?_
    obtain ⟨cells, hcells, rfl⟩ := List.mem_map.1 hfields
    exact mt List.map_eq_nil_iff.1 (hne cells hcells)
  rw [List.flatMap_map] at hrows
  rw [read?, hrows]
  exact mapM_map_of_eq_some (mapM_map_of_eq_some textOf?_bytesOf) rows

/-- Null and a missing column are both written as the settings say. -/
theorem cellText_resolve (settings : Settings) (r : Record) (column : String) :
    cellText settings (r.resolve column) =
      match r.get? column with
      | none | some .null => settings.nullText
      | some v => v.display := by
  unfold Record.resolve
  cases r.get? column with
  | none => rfl
  | some v => cases v <;> rfl

end Csv

/-- **A table is read back as the grid it was written from.** The first row holds the columns
of the first record, and every record has a row with its values under them, shown as text,
where the settings say what stands for null and for a missing column. -/
theorem Dataset.csv?_reads_back (settings : Settings) {first : Record} (others : Dataset)
    (hcolumns : first.columns ≠ []) (hquote : settings.delimiter ≠ Csv.quote)
    (hfeed : settings.delimiter ≠ Csv.lineFeed) :
    ∃ bytes, Dataset.csv? settings (first :: others) = some bytes ∧
      Csv.read? settings.delimiter bytes =
        some (first.columns :: (first :: others).map fun r => first.columns.map fun column =>
          match r.get? column with
          | none | some .null => settings.nullText
          | some v => v.display) := by
  refine ⟨_, rfl, ?_⟩
  have hne : ∀ cells ∈ csvRows settings first.columns (first :: others), cells ≠ [] := by
    refine List.forall_mem_cons.2 ⟨hcolumns, fun cells hcells => ?_⟩
    obtain ⟨r, -, rfl⟩ := List.mem_map.1 hcells
    exact mt List.map_eq_nil_iff.1 hcolumns
  rw [Csv.read?_rows hquote hfeed hne]
  simp only [csvRows, Csv.cellText_resolve]

/-- A delimiter that occurs in names and numbers, quotes and line breaks in texts, a null, a
missing column and an empty name. -/
theorem Dataset.csv?_reads_back_awkward_texts :
    let settings : Settings := { delimiter := '1'.toUInt8, layout := .compact, nullText := "\"\n" }
    let first : Record := ⟨[("a1", .number (.finite .one)), ("", .text "x\r\n\"")]⟩
    let second : Record := ⟨[("a1", .null), ("b", .bool true)]⟩
    ∃ bytes, Dataset.csv? settings [first, second] = some bytes ∧
      Csv.read? settings.delimiter bytes = some [["a1", ""], ["1", "x\r\n\""], ["\"\n", "\"\n"]] := by
  intro settings first second
  obtain ⟨bytes, hbytes, hread⟩ :=
    @Dataset.csv?_reads_back settings first [second] (by decide) (by decide) (by decide)
  exact ⟨bytes, hbytes, hread.trans (by decide +kernel)⟩

end RowQuery
