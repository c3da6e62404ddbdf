import RowQuery.Json.Reader
import RowQuery.Json.Writer
import RowQuery.Proofs.JsonTokens
/-!
# JSON values read back

A text reads as a value when it is scanned as tokens that are read as this value, whatever
follows (`ReadsAs`). Scalars do, and arrays and objects do if what they hold does
(`readsAs_array`, `readsAs_object`). In both layouts the same tokens stand in the text, so the
layout makes no difference to what is read.
-/

namespace RowQuery

namespace Json

open Token (Scans)

/-! ## Reading from tokens -/

/-- The text is scanned as tokens that are read as the value, as long as the limit is no less than
their number. The first of them closes nothing. -/
def ReadsAs {α : Type} (item? : Nat → List Token → Option (α × List Token)) (text : List Char) (value : α) :
    Prop :=
  ∃ first tokens, first ≠ .closeArray ∧ first ≠ .closeObject ∧ Scans text (first :: tokens) ∧
    ∀ limit rest, tokens.length < limit → item? limit (first :: tokens ++ rest) = some (value, rest)

/-- A value at a depth. -/
abbrev valueAt? (depth limit : Nat) : List Token → Option (Json × List Token) := take? limit depth

/-- A name with a value at a depth. -/
abbrev memberAt? (depth limit : Nat) : List Token → Option ((String × Json) × List Token) :=
  takeMember? (take? limit depth)

/-! ## Scalars -/

theorem readsAs_token (token : Token) {depth : Nat} {text : List Char} {value : Json}
    (harray : token ≠ .closeArray) (hobject : token ≠ .closeObject)
    (htake : ∀ rest, Numeral.Stops rest → Token.take? (text ++ rest) = some (token, rest))
    (hread : ∀ limit rest, take? limit depth (token :: rest) = some (value, rest)) :
    ReadsAs (valueAt? depth) text value :=
  ⟨token, [], harray, hobject, Token.scans_of_take? htake, fun limit rest _ => hread limit rest⟩

theorem readsAs_null (layout : Layout) (indent depth : Nat) :
    ReadsAs (valueAt? depth) (render layout indent null) null :=
  readsAs_token .null (by decide) (by decide) (fun _ _ => rfl) fun _ _ => by simp [take?]

theorem readsAs_bool (layout : Layout) (indent depth : Nat) (b : Bool) :
    ReadsAs (valueAt? depth) (render layout indent (bool b)) (bool b) := by
  refine readsAs_token (.bool b) (by simp) (by simp) (fun _ _ => ?_) fun _ _ => by simp [take?]
  cases b <;> rfl

theorem readsAs_string (layout : Layout) (indent depth : Nat) (s : String) :
    ReadsAs (valueAt? depth) (render layout indent (string s)) (string s) := by
  refine readsAs_token (.string s) (by simp) (by simp) (fun rest _ => ?_) fun _ _ => by simp [take?]
  rw [render]
  exact Token.take?_stringText s rest

theorem readsAs_number (layout : Layout) (indent depth : Nat) {m n : Number} {l : Numeral} (hl : l.WellFormed)
    (htext : m.text = l.spelled) (hn : l.number? = some n) :
    ReadsAs (valueAt? depth) (render layout indent (number m)) (number n) := by
  refine readsAs_token (.number n) (by simp) (by simp) (fun rest hrest => ?_) fun _ _ => by simp [take?]
  rw [render, htext]
  exact Token.take?_numeral (Numeral.take?_spelled hl hrest) hn

/-! ## Items with commas between them -/

/-- A comma with the line break behind it. -/
def separator (layout : Layout) (indent : Nat) : List Char := ',' :: layout.lineBreak indent

theorem scan?_separator (layout : Layout) (indent : Nat) (rest : List Char) :
    Token.scan? (separator layout indent ++ rest) = (Token.scan? rest).map (.comma :: ·) := by
  rw [separator, List.cons_append, ← Token.scan?_lineBreak layout indent rest]
  exact Token.scan?_of_take? rfl

theorem stops_separator (layout : Layout) (indent : Nat) (rest : List Char) :
    Numeral.Stops (separator layout indent ++ rest) := Numeral.stops_cons _ (by decide)

theorem stops_lineBreak (layout : Layout) (indent : Nat) {c : Char} (hc : RowQuery.Numeral.isNumeralChar c = false)
    (rest : List Char) : Numeral.Stops (layout.lineBreak indent ++ c :: rest) := by
  cases layout with
  | compact => exact Numeral.stops_cons rest hc
  | indented => exact Numeral.stops_cons _ (by decide)

/-- Items that can be read each can be read one after the other. The limit for their count goes
down by one with every item, and every item has a token. -/
theorem readsAs_items {α : Type} {item? : Nat → List Token → Option (α × List Token)} {closing : Token}
    (hclosing : closing = .closeArray ∨ closing = .closeObject) (layout : Layout) (indent : Nat)
    {text : List Char} {value : α} {texts : List (List Char)} {values : List α}
    (hfirst : ReadsAs item? text value) (hrest : List.Forall₂ (ReadsAs item?) texts values) :
    ∃ first tokens, first ≠ .closeArray ∧ first ≠ .closeObject ∧
      Scans ((separator layout indent).intercalate (text :: texts)) (first :: tokens) ∧
      ∀ limit count rest, tokens.length < limit → tokens.length < count →
        takeItems? (item? limit) closing count (first :: tokens ++ closing :: rest) =
          some (value :: values, rest) := by
  induction hrest generalizing text value with
  | nil =>
    obtain ⟨first, tokens, harray, hobject, hscan, hread⟩ := hfirst
    refine ⟨first, tokens, harray, hobject, by rwa [List.intercalate_singleton], ?_⟩
    intro limit count rest hlimit hcount
    obtain ⟨count, rfl⟩ := Nat.exists_eq_succ_of_ne_zero (Nat.ne_of_gt (Nat.zero_lt_of_lt hcount))
    rw [takeItems?, hread limit _ hlimit]
    rcases hclosing with rfl | rfl <;> simp
  | cons hnext _ ih =>
    obtain ⟨first, tokens, harray, hobject, hscan, hread⟩ := hfirst
    obtain ⟨next, others, -, -, hscan', hread'⟩ := ih hnext
    refine ⟨first, tokens ++ .comma :: next :: others, harray, hobject, ?_, ?_⟩
    · intro rest hrest
      rw [List.intercalate_cons_cons, List.append_assoc, List.append_assoc, hscan _ (stops_separator _ _ _),
        scan?_separator, hscan' rest hrest]
      simp [Function.comp_def]
    · intro limit count rest hlimit hcount
      rw [List.length_append, List.length_cons, List.length_cons] at hlimit hcount
      obtain ⟨count, rfl⟩ := Nat.exists_eq_succ_of_ne_zero (Nat.ne_of_gt (Nat.zero_lt_of_lt hcount))
      have htokens : first :: (tokens ++ .comma :: next :: others) ++ closing :: rest =
          first :: tokens ++ .comma :: (next :: others ++ closing :: rest) := by simp
      have hitems := hread' limit count rest (by omega) (by omega)
      rw [htokens, takeItems?, hread limit _ (by omega)]
      simp only [Option.bind_eq_bind, Option.bind_some, hitems]
      rfl

/-! ## Brackets -/

/-- A kind of brackets at a depth: their characters, their tokens, and what is made of the items
between them. -/
structure Brackets {α : Type} (depth : Nat) (item? : Nat → List Token → Option (α × List Token))
    (wrap : List α → Json) where
  openChar : Char
  closeChar : Char
  opening : Token
  closing : Token
  scan_open : ∀ rest, Token.scan? (openChar :: rest) = (Token.scan? rest).map (opening :: ·)
  scan_close : ∀ rest, Token.scan? (closeChar :: rest) = (Token.scan? rest).map (closing :: ·)
  stops : RowQuery.Numeral.isNumeralChar closeChar = false
  opens : opening ≠ .closeArray ∧ opening ≠ .closeObject
  closes : closing = .closeArray ∨ closing = .closeObject
  read_empty : ∀ limit rest, take? limit (depth + 1) (opening :: closing :: rest) = some (wrap [], rest)
  read_items : ∀ limit first tokens, first ≠ closing →
    take? limit (depth + 1) (opening :: first :: tokens) =
      (takeItems? (item? limit) closing limit (first :: tokens)).map fun (items, tokens) => (wrap items, tokens)

def arrayBrackets (depth : Nat) : Brackets depth (valueAt? depth) array where
  openChar := '['
  closeChar := ']'
  opening := .openArray
  closing := .closeArray
  scan_open _ := Token.scan?_of_take? rfl
  scan_close _ := Token.scan?_of_take? rfl
  stops := by decide
  opens := by decide
  closes := .inl rfl
  read_empty _ _ := by rw [take?]
  read_items limit first tokens h := by
    rw [take?]
    exact fun tail heq => h (List.cons.inj heq).1

def objectBrackets (depth : Nat) :
    Brackets depth (memberAt? depth) fun entries => object (setEntries [] entries) where
  openChar := '\x7b'
  closeChar := '\x7d'
  opening := .openObject
  closing := .closeObject
  scan_open _ := Token.scan?_of_take? rfl
  scan_close _ := Token.scan?_of_take? rfl
  stops := by decide
  opens := by decide
  closes := .inr rfl
  read_empty _ _ := by
    rw [take?]
    rfl
  read_items limit first tokens h := by
    rw [take?]
    exact fun tail heq => h (List.cons.inj heq).1

namespace Brackets

variable {α : Type} {depth : Nat} {item? : Nat → List Token → Option (α × List Token)} {wrap : List α → Json}

theorem readsAs_empty (b : Brackets depth item? wrap) :
    ReadsAs (valueAt? (depth + 1)) [b.openChar, b.closeChar] (wrap []) := by
  refine ⟨b.opening, [b.closing], b.opens.1, b.opens.2, fun rest _ => ?_, fun limit rest _ => b.read_empty limit rest⟩
  rw [List.cons_append, List.singleton_append, b.scan_open, b.scan_close]
  simp [Function.comp_def]

/-- Items that can be read each can be read between brackets, on lines of their own or not. -/
theorem readsAs (b : Brackets depth item? wrap) (layout : Layout) (indent : Nat) {text : List Char} {value : α}
    {texts : List (List Char)} {values : List α} (hfirst : ReadsAs item? text value)
    (hrest : List.Forall₂ (ReadsAs item?) texts values) :
    ReadsAs (valueAt? (depth + 1))
      (b.openChar :: (layout.lineBreak (indent + 1) ++
        ((separator layout (indent + 1)).intercalate (text :: texts) ++ (layout.lineBreak indent ++ [b.closeChar]))))
      (wrap (value :: values)) := by
  obtain ⟨first, tokens, harray, hobject, hscan, hread⟩ :=
    readsAs_items b.closes layout (indent + 1) hfirst hrest
  refine ⟨b.opening, first :: tokens ++ [b.closing], b.opens.1, b.opens.2, fun rest _ => ?_, fun limit rest hlimit => ?_⟩
  · have hitems := hscan _ (stops_lineBreak layout indent b.stops rest)
    simp only [List.cons_append, List.append_assoc, List.nil_append]
    rw [b.scan_open, Token.scan?_lineBreak, hitems, Token.scan?_lineBreak, b.scan_close]
    simp [Function.comp_def]
  · have hfirst : first ≠ b.closing := b.closes.elim (fun h => h ▸ harray) (fun h => h ▸ hobject)
    simp only [List.length_append, List.length_cons, List.length_nil] at hlimit
    have hitems := hread limit limit rest (by omega) (by omega)
    simp only [List.cons_append, List.append_assoc, List.nil_append] at hitems ⊢
    rw [valueAt?, b.read_items limit first _ hfirst, hitems]
    rfl

end Brackets

/-! ## Arrays and objects -/

theorem renderItems_eq (layout : Layout) (indent : Nat) (item : Json) (items : List Json) :
    render layout indent item ++ renderItems layout indent items =
      (separator layout indent).intercalate ((item :: items).map (render layout indent)) := by
  induction items generalizing item with
  | nil => simp [renderItems]
  | cons next items ih =>
    rw [renderItems, List.map_cons, List.map_cons, List.intercalate_cons_cons, ← List.map_cons, ← ih]
    simp [separator]

theorem readsAs_array {layout : Layout} {indent depth : Nat} {items reads : List Json}
    (h : List.Forall₂ (fun item read => ReadsAs (valueAt? depth) (render layout (indent + 1) item) read) items reads) :
    ReadsAs (valueAt? (depth + 1)) (render layout indent (array items)) (array reads) := by
  cases h with
  | nil =>
    rw [render]
    exact (arrayBrackets depth).readsAs_empty
  | cons hitem hitems =>
    have hread := (arrayBrackets depth).readsAs layout indent hitem (List.forall₂_map_left_iff.2 hitems)
    rw [← List.map_cons, ← renderItems_eq] at hread
    simpa only [render, arrayBrackets, List.cons_append, List.append_assoc] using hread

/-- An entry of an object. -/
def memberText (layout : Layout) (indent : Nat) (entry : String × Json) : List Char :=
  stringText entry.1 ++ layout.colon ++ render layout indent entry.2

theorem renderEntries_eq (layout : Layout) (indent : Nat) (entry : String × Json) (entries : List (String × Json)) :
    memberText layout indent entry ++ renderEntries layout indent entries =
      (separator layout indent).intercalate ((entry :: entries).map (memberText layout indent)) := by
  induction entries generalizing entry with
  | nil => simp [renderEntries]
  | cons next entries ih =>
    rw [renderEntries, List.map_cons, List.map_cons, List.intercalate_cons_cons, ← List.map_cons, ← ih]
    simp [separator, memberText]

theorem readsAs_member {layout : Layout} {indent depth : Nat} (name : String) {value read : Json}
    (h : ReadsAs (valueAt? depth) (render layout indent value) read) :
    ReadsAs (memberAt? depth) (memberText layout indent (name, value)) (name, read) := by
  obtain ⟨first, tokens, -, -, hscan, hread⟩ := h
  refine ⟨.string name, .colon :: first :: tokens, by simp, by simp, fun rest hrest => ?_, fun limit rest hlimit => ?_⟩
  · rw [memberText, List.append_assoc, List.append_assoc, Token.scan?_of_take? (Token.take?_stringText name _),
      Token.scan?_colon, hscan rest hrest]
    simp [Function.comp_def]
  · simp only [List.length_cons] at hlimit
    have hvalue := hread limit rest (by omega)
    simp only [List.cons_append] at hvalue ⊢
    simp only [memberAt?, takeMember?, hvalue, Option.map_some]

/-- Entries with distinct names are read back, since none of them takes the place of another. -/
theorem readsAs_object {layout : Layout} {indent depth : Nat} {entries reads : List (String × Json)}
    (h : List.Forall₂ (fun entry read => read.1 = entry.1 ∧
      ReadsAs (valueAt? depth) (render layout (indent + 1) entry.2) read.2) entries reads)
    (hnames : (reads.map (·.1)).Nodup) :
    ReadsAs (valueAt? (depth + 1)) (render layout indent (object entries)) (object reads) := by
  have hmembers : List.Forall₂ (fun entry read =>
      ReadsAs (memberAt? depth) (memberText layout (indent + 1) entry) read) entries reads := by
    refine h.imp fun entry read hentry => ?_
    obtain ⟨name, value⟩ := entry
    obtain ⟨name', read⟩ := read
    obtain ⟨rfl, hvalue⟩ := hentry
    exact readsAs_member _ hvalue
  rw [← setEntries_nil hnames]
  cases hmembers with
  | nil =>
    rw [render]
    exact (objectBrackets depth).readsAs_empty
  | cons hentry hentries =>
    have hread := (objectBrackets depth).readsAs layout indent hentry (List.forall₂_map_left_iff.2 hentries)
    rw [← List.map_cons, ← renderEntries_eq] at hread
    simpa only [render, memberText, objectBrackets, List.cons_append, List.append_assoc] using hread

/-- A text that reads as a value is parsed as this value, since nothing is left of it. -/
theorem parse?_of_readsAs {text : List Char} {value : Json} (h : ReadsAs (valueAt? nestingLimit) text value) :
    parse? text = some value := by
  obtain ⟨first, tokens, -, -, hscan, hread⟩ := h
  have htokens := hscan [] Numeral.stops_nil
  have hvalue := hread (first :: tokens).length [] (Nat.lt_succ_self _)
  rw [Token.scan?_nil, Option.map_some] at htokens
  simp only [List.append_nil] at htokens hvalue
  simp only [parse?, htokens, hvalue, Option.bind_eq_bind, Option.bind_some, if_pos]

end Json

end RowQuery
