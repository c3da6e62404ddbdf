import RowQuery.Proofs.Bars
/-!
# The grammar of shell lines

Every way to write a command of the shell: a command word in any letter case, and behind it words
with white space between them, a list with commas, or a condition with parameters behind a bar
(`Command.Spells`). A line that is written like this is read as the command, and each command whose
parts can be written at all has such a line (`spelled_lines_read_back`).

Reading splits the same text in four ways, by white space, at commas, at the last bar and at the
first colon. There is a relation for each of the first two, and a lemma for each of the four that
says what splitting makes of text that was put together.
-/

namespace RowQuery

/-! ## Letter case -/

namespace Text

theorem lowercaseChar_of_isAlpha {c : Char} (h : c.isAlpha = true) : lowercaseChar c = [c.toLower] := by
  have hletters : ∀ n < 128, (Char.ofNat n).isAlpha = true →
      lowercaseChar (Char.ofNat n) = [(Char.ofNat n).toLower] := by decide +kernel
  have hrange := toNat_of_isAlpha h
  have hchar := hletters c.toNat (by omega)
  rw [Char.ofNat_toNat] at hchar
  exact hchar h

theorem lowercase_of_isAlpha {cs : List Char} (h : ∀ c ∈ cs, c.isAlpha = true) :
    lowercase cs = cs.map Char.toLower := by
  suffices hafter : ∀ before, lowercaseAfter before cs = cs.map Char.toLower from hafter []
  induction cs with
  | nil => exact fun _ => rfl
  | cons c cs ih =>
    intro before
    obtain ⟨hc, hcs⟩ := List.forall_mem_cons.1 h
    have hrange := toNat_of_isAlpha hc
    rw [lowercaseAfter, if_neg (by omega), lowercaseChar_of_isAlpha hc, ih hcs]
    rfl

/-- A word that is a keyword in any letter case has the lower case of the keyword. -/
theorem lowercase_of_isKeyword {keyword : String} {word : List Char}
    (hkeyword : ∀ c ∈ keyword.toList, c.isAlpha = true) (h : isKeyword keyword word = true) :
    lowercase word = keyword.toList.map Char.toLower := by
  have hupper : word.map Char.toUpper = keyword.toList := by simpa [isKeyword, upperAscii] using h
  rw [lowercase_of_isAlpha (isAlpha_of_isKeyword hkeyword h), ← hupper, List.map_map]
  exact List.map_congr_left fun c _ => (Char.toLower_toUpper_eq_toLower c).symm

/-- A word is no other keyword than the one it is, also when it is trimmed. -/
theorem isKeyword_trim {keyword : String} {word : List Char} (hkeyword : ∀ c ∈ keyword.toList, c.isAlpha = true)
    (h : isKeyword keyword word = true) (other : String) :
    isKeyword other (trim word) = (keyword.toList == other.toList) := by
  have hsolid : ∀ c ∈ word, isBlank c = false :=
    fun c hc => isBlank_of_isAlpha (isAlpha_of_isKeyword hkeyword h c hc)
  rw [isKeyword, beq_iff_eq] at h
  rw [trim_of_forall hsolid, isKeyword, h]

/-! ## Words and lists -/

/-- A text with white space around it, perhaps, and none at its own ends. -/
inductive Padded (text : String) : List Char → Prop
  | intro (lead blank : List Char) (lead_blank : ∀ c ∈ lead, isBlank c = true)
    (end_blank : ∀ c ∈ blank, isBlank c = true) (trimmed : trim text.toList = text.toList) :
    Padded text (lead ++ (text.toList ++ blank))

theorem Padded.trim_eq {text : String} {cs : List Char} (h : Padded text cs) : trim cs = text.toList := by
  obtain ⟨lead, blank, lead_blank, end_blank, trimmed⟩ := h
  rw [trim_blank_append lead_blank, trim_append_of_blank _ end_blank, trimmed]

theorem Padded.of_space {text : String} (h : trim text.toList = text.toList) : Padded text (' ' :: text.toList) := by
  have hpadded := Padded.intro [' '] [] isBlank_of_mem_space (by simp) h
  rwa [List.append_nil] at hpadded

theorem Padded.not_mem {text : String} {cs : List Char} (h : Padded text cs) {c : Char} (hc : isBlank c = false)
    (hmem : c ∉ text.toList) : c ∉ cs := by
  obtain ⟨lead, blank, lead_blank, end_blank, -⟩ := h
  have hblank : ∀ {blank : List Char}, (∀ d ∈ blank, isBlank d = true) → c ∉ blank := fun hall hd => by
    rw [hall c hd] at hc
    cases hc
  exact List.not_mem_append (hblank lead_blank) (List.not_mem_append hmem (hblank end_blank))

/-- Words with white space in front of each, and perhaps behind the last. -/
inductive Spaced : List (List Char) → List Char → Prop
  | nil {blank : List Char} (end_blank : ∀ c ∈ blank, isBlank c = true) : Spaced [] blank
  | cons {word cs : List Char} {words : List (List Char)} (gap : List Char) (gap_ne : gap ≠ [])
    (gap_blank : ∀ c ∈ gap, isBlank c = true) (isWord : IsWord word) (rest : Spaced words cs) :
    Spaced (word :: words) (gap ++ (word ++ cs))

theorem Spaced.head {words : List (List Char)} {cs : List Char} (h : Spaced words cs) :
    ∀ c ∈ cs.head?, isBlank c = true := by
  intro c hc
  cases h with
  | nil end_blank => exact end_blank c (List.mem_of_mem_head? hc)
  | cons gap gap_ne gap_blank _ _ =>
    rw [List.head?_append_of_ne_nil _ gap_ne] at hc
    exact gap_blank c (List.mem_of_mem_head? hc)

theorem Spaced.isWord_of_mem {words : List (List Char)} {cs : List Char} (h : Spaced words cs) :
    ∀ word ∈ words, IsWord word := by
  induction h with
  | nil => simp
  | cons _ _ _ isWord _ ih => exact List.forall_mem_cons.2 ⟨isWord, ih⟩

theorem Spaced.words_eq {texts : List (List Char)} {cs : List Char} (h : Spaced texts cs) : words cs = texts := by
  induction h with
  | nil end_blank => exact (words_append_of_blank [] end_blank).trans words_nil
  | cons _ _ gap_blank isWord rest ih =>
    rw [words_blank_append gap_blank, words_word_append isWord rest.head, ih]

theorem Spaced.of_isWord {texts : List (List Char)} (h : ∀ text ∈ texts, IsWord text) :
    Spaced texts (texts.flatMap (' ' :: ·)) := by
  induction texts with
  | nil => exact .nil (by simp)
  | cons text texts ih =>
    obtain ⟨htext, htexts⟩ := List.forall_mem_cons.1 h
    exact .cons [' '] (by simp) isBlank_of_mem_space htext (ih htexts)

theorem splitFirst?_append {separator : Char} {before : List Char} (h : separator ∉ before) (after : List Char) :
    splitFirst? separator (before ++ separator :: after) = some (before, after) := by
  induction before with
  | nil =>
    rw [List.nil_append, splitFirst?]
    exact if_pos rfl
  | cons c before ih =>
    obtain ⟨hc, hbefore⟩ := not_or.1 (mt List.mem_cons.2 h)
    rw [List.cons_append, splitFirst?, if_neg (Ne.symm hc), ih hbefore]
    rfl

end Text

namespace Argument

/-- Texts with a comma between two, and perhaps white space around each. -/
inductive Listed : List String → List Char → Prop
  | single {text : String} {cs : List Char} (padded : Text.Padded text cs) (no_comma : ',' ∉ text.toList) :
    Listed [text] cs
  | cons {text : String} {texts : List String} {cs ds : List Char} (padded : Text.Padded text cs)
    (no_comma : ',' ∉ text.toList) (rest : Listed texts ds) : Listed (text :: texts) (cs ++ ',' :: ds)

theorem commaList_of_padded {text : String} {cs : List Char} (h : Text.Padded text cs) (hcomma : ',' ∉ text.toList) :
    commaList cs = [text] := by
  rw [commaList_of_not_mem (h.not_mem (by decide) hcomma), h.trim_eq, String.ofList_toList]

theorem Listed.commaList_eq {texts : List String} {cs : List Char} (h : Listed texts cs) : commaList cs = texts := by
  induction h with
  | single padded no_comma => exact commaList_of_padded padded no_comma
  | cons padded no_comma _ ih =>
    rw [commaList_append_cons, commaList_of_padded padded no_comma, ih]
    rfl

theorem Listed.not_mem {texts : List String} {cs : List Char} (h : Listed texts cs) {c : Char}
    (hblank : Text.isBlank c = false) (hcomma : c ≠ ',') (hmem : ∀ text ∈ texts, c ∉ text.toList) : c ∉ cs := by
  induction h with
  | single padded _ => exact padded.not_mem hblank (hmem _ List.mem_cons_self)
  | cons padded _ _ ih =>
    obtain ⟨htext, htexts⟩ := List.forall_mem_cons.1 hmem
    refine List.not_mem_append (padded.not_mem hblank htext) fun hc => ?_
    exact (List.mem_cons.1 hc).elim hcomma (ih htexts)

/-- Texts that are trimmed and free of commas can be put into a list. -/
theorem exists_listed {texts : List String} (hne : texts ≠ [])
    (h : ∀ text ∈ texts, Text.trim text.toList = text.toList ∧ ',' ∉ text.toList) :
    ∃ cs, Listed texts (' ' :: cs) := by
  induction texts with
  | nil => exact absurd rfl hne
  | cons text texts ih =>
    obtain ⟨⟨htrim, hcomma⟩, htexts⟩ := List.forall_mem_cons.1 h
    cases texts with
    | nil => exact ⟨_, .single (.of_space htrim) hcomma⟩
    | cons next texts =>
      obtain ⟨cs, hcs⟩ := ih (List.cons_ne_nil _ _) htexts
      exact ⟨_, .cons (.of_space htrim) hcomma hcs⟩

/-- Decimal digits that stand for a number. -/
structure IsDecimal (digits : List Char) (n : Nat) : Prop where
  ne_nil : digits ≠ []
  isDigit : ∀ c ∈ digits, c.isDigit = true
  value : Numeral.natural digits = n

theorem isDecimal_digitsOf (n : Nat) : IsDecimal (digitsOf n) n :=
  ⟨Nat.toDigits_ne_nil, Numeral.isDigit_of_mem_digitsOf, Numeral.natural_digitsOf n⟩

theorem IsDecimal.isWord {digits : List Char} {n : Nat} (h : IsDecimal digits n) : Text.IsWord digits :=
  ⟨h.ne_nil, fun c hc => Text.isBlank_of_isDigit (h.isDigit c hc)⟩

end Argument

def SortDirection.keyword : SortDirection → String
  | ascending => "ASC"
  | descending => "DESC"

def JoinKind.keyword : JoinKind → String
  | inner => "INNER"
  | left => "LEFT"

/-! ## The grammar -/

namespace Shell

/-- The argument that spells a column with a function. -/
def fieldText (field : String × String) : List Char := field.1.toList ++ ':' :: field.2.toList

namespace Command

/-- The commands that have no arguments, with their words. -/
def plain : List (String × Command) :=
  [("JSON", json), ("SHOW", table), ("COUNT", count), ("RESET", reset), ("HELP", help), ("EXIT", exit), ("QUIT", exit)]

/-- A command word with the text behind it that spells a command. -/
inductive Spells : String → List Char → Command → Prop
  | condition {condition : String} {cs : List Char} (padded : Text.Padded condition cs)
    (no_bar : '|' ∉ condition.toList) : Spells "WHERE" cs (filter condition [])
  | bound {condition : String} {params : List String} {cs ds : List Char} (padded : Text.Padded condition cs)
    (listed : Argument.Listed params ds) (no_bar : ∀ param ∈ params, '|' ∉ param.toList) :
    Spells "WHERE" (cs ++ '|' :: ds) (filter condition (params.map .ofUntyped))
  | select {columns : List String} {cs : List Char} (listed : Argument.Listed columns cs) :
    Spells "SELECT" cs (select columns)
  | order {column : String} {cs : List Char} (spaced : Text.Spaced [column.toList] cs) :
    Spells "ORDER" cs (sort column .ascending)
  | directed {column : String} {direction : SortDirection} {word cs : List Char}
    (spaced : Text.Spaced [column.toList, word] cs) (named : Text.isKeyword direction.keyword word = true) :
    Spells "ORDER" cs (sort column direction)
  | limit {number : Nat} {digits cs : List Char} (spaced : Text.Spaced [digits] cs)
    (decimal : Argument.IsDecimal digits number) (fits : number < 2 ^ 64) : Spells "LIMIT" cs (limit number 0)
  | window {number offset : Nat} {digits digits' cs : List Char} (spaced : Text.Spaced [digits, digits'] cs)
    (decimal : Argument.IsDecimal digits number) (fits : number < 2 ^ 64)
    (decimal' : Argument.IsDecimal digits' offset) (fits' : offset < 2 ^ 64) :
    Spells "LIMIT" cs (limit number offset)
  | join {path localKey operator foreignKey : String} {cs : List Char}
    (spaced : Text.Spaced [path.toList, localKey.toList, operator.toList, foreignKey.toList] cs) :
    Spells "JOIN" cs (join path localKey operator foreignKey .inner none)
  | joinOf {path localKey operator foreignKey : String} {kind : JoinKind} {word cs : List Char}
    (spaced : Text.Spaced [path.toList, localKey.toList, operator.toList, foreignKey.toList, word] cs)
    (named : Text.isKeyword kind.keyword word = true) :
    Spells "JOIN" cs (join path localKey operator foreignKey kind none)
  | joinAs {path localKey operator foreignKey name : String} {kind : JoinKind} {word cs : List Char}
    (spaced : Text.Spaced [path.toList, localKey.toList, operator.toList, foreignKey.toList, word, name.toList] cs)
    (named : Text.isKeyword kind.keyword word = true) :
    Spells "JOIN" cs (join path localKey operator foreignKey kind (some name))
  | group {column : String} {cs : List Char} (spaced : Text.Spaced [column.toList] cs) :
    Spells "GROUP" cs (group column)
  | aggregate {fields : List (String × String)} {cs : List Char} (ne_nil : fields ≠ [])
    (spaced : Text.Spaced (fields.map fieldText) cs) (no_colon : ∀ field ∈ fields, ':' ∉ field.1.toList) :
    Spells "AGG" cs (aggregate fields)
  | page {number perPage : Nat} {digits digits' cs : List Char} (spaced : Text.Spaced [digits, digits'] cs)
    (decimal : Argument.IsDecimal digits number) (fits : number < 2 ^ 64)
    (decimal' : Argument.IsDecimal digits' perPage) (fits' : perPage < 2 ^ 64) :
    Spells "PAGE" cs (page number perPage)
  | exportCsv {path : String} {cs : List Char} (spaced : Text.Spaced [path.toList] cs) :
    Spells "CSV" cs (exportCsv path)
  | plain {keyword : String} {command : Command} {cs : List Char} (mem : (keyword, command) ∈ plain)
    (spaced : Text.Spaced [] cs) : Spells keyword cs command

end Command

/-- A line that is a command word in any letter case, perhaps behind white space, and a text apart from it. -/
inductive IsLine (keyword : String) (text : List Char) : List Char → Prop
  | intro (lead word : List Char) (lead_blank : ∀ c ∈ lead, Text.isBlank c = true)
    (named : Text.isKeyword keyword word = true) (apart : ∀ c ∈ text.head?, Text.isBlank c = true) :
    IsLine keyword text (lead ++ (word ++ text))

/-- A line that is written as a command is. -/
def Command.IsSpelled (command : Command) (line : String) : Prop :=
  ∃ keyword text, IsLine keyword text line.toList ∧ Spells keyword text command

/-! ## Reading the arguments -/

namespace Command

theorem parseCount_of_isDecimal {digits : List Char} {n : Nat} (h : Argument.IsDecimal digits n) :
    parseCount (String.ofList digits) = if n < 2 ^ 64 then .ok n else .error (.count .tooLarge) := by
  obtain ⟨hne, hdigits, rfl⟩ := h
  rw [parseCount, Argument.count_of_digits (by simpa using hne) (by simpa using hdigits), String.toList_ofList]
  split
  next hlt =>
    rw [Argument.countDigits_of_lt hdigits hlt]
    rfl
  next hge =>
    rw [Argument.countDigits_of_le hdigits (by decide) (Nat.not_lt.1 hge)]
    rfl

theorem field?_fieldText {field : String × String} (hword : Text.IsWord (fieldText field))
    (hcolon : ':' ∉ field.1.toList) :
    Argument.field? (String.ofList (fieldText field)) = some field := by
  have hsolid := hword.solid
  simp only [fieldText, List.mem_append, List.mem_cons] at hsolid
  rw [Argument.field?, String.toList_ofList, fieldText, Text.splitFirst?_append hcolon, Option.map_some]
  dsimp only
  rw [Text.trim_of_forall fun c hc => hsolid c (.inl hc), Text.trim_of_forall fun c hc => hsolid c (.inr (.inr hc)),
    String.ofList_toList, String.ofList_toList]

theorem fields_fieldText {fields : List (String × String)}
    (hwords : ∀ text ∈ fields.map fieldText, Text.IsWord text) (hcolon : ∀ field ∈ fields, ':' ∉ field.1.toList) :
    Argument.fields ParseError.field ((fields.map fieldText).map String.ofList) = .ok fields := by
  rw [Argument.fields]
  induction fields with
  | nil => rfl
  | cons field fields ih =>
    obtain ⟨hword, hwords⟩ := List.forall_mem_cons.1 hwords
    obtain ⟨hfield, hfields⟩ := List.forall_mem_cons.1 hcolon
    rw [List.map_cons, List.map_cons, List.mapM_cons, field?_fieldText hword hfield, ih hwords hfields]
    rfl

theorem ofText_direction {direction : SortDirection} {word : List Char}
    (h : Text.isKeyword direction.keyword word = true) : SortDirection.ofText (String.ofList word) = direction := by
  have hkeyword : ∀ c ∈ direction.keyword.toList, c.isAlpha = true := by
    rw [← List.all_eq_true]
    cases direction <;> decide
  rw [SortDirection.ofText, String.toList_ofList, Text.isKeyword_trim hkeyword h]
  cases direction <;> decide

theorem ofText_kind {kind : JoinKind} {word : List Char} (h : Text.isKeyword kind.keyword word = true) :
    JoinKind.ofText (String.ofList word) = kind := by
  have hkeyword : ∀ c ∈ kind.keyword.toList, c.isAlpha = true := by
    rw [← List.all_eq_true]
    cases kind <;> decide
  rw [JoinKind.ofText, String.toList_ofList, Text.isKeyword_trim hkeyword h]
  cases kind <;> decide

/-- The arguments of a text are its words. -/
theorem args_of_spaced {texts : List (List Char)} {cs : List Char} (h : Text.Spaced texts cs) :
    (Text.words (Text.trim cs)).map String.ofList = texts.map String.ofList := by
  rw [Text.words_trim, h.words_eq]

/-- The word of a command in lower case, as it is looked up. -/
def lowered (keyword : String) : String := String.ofList (keyword.toList.map Char.toLower)

theorem ofWord_plain {keyword : String} {command : Command} (h : (keyword, command) ∈ plain) (rest : List Char) :
    ofWord (lowered keyword) rest = .ok command := by
  simp only [plain, List.mem_cons, List.not_mem_nil, or_false, Prod.mk.injEq] at h
  rcases h with ⟨rfl, rfl⟩ | ⟨rfl, rfl⟩ | ⟨rfl, rfl⟩ | ⟨rfl, rfl⟩ | ⟨rfl, rfl⟩ | ⟨rfl, rfl⟩ | ⟨rfl, rfl⟩
  all_goals rfl

/-- What a command word and the text behind it spell is read. -/
theorem ofWord_of_spells {keyword : String} {cs : List Char} {command : Command} (h : Spells keyword cs command) :
    ofWord (lowered keyword) (Text.trim cs) = .ok command := by
  cases h with
  | condition padded no_bar =>
    show Except.ok (parseFilter (Text.trim cs)) = _
    rw [padded.trim_eq, parseFilter, Text.splitLast?_eq_none no_bar]
    exact congrArg (fun text => Except.ok (filter text [])) String.ofList_toList
  | @bound condition params before after padded listed no_bar =>
    show Except.ok (parseFilter (Text.trim (before ++ '|' :: after))) = _
    rw [parseFilter_of_bar before (listed.not_mem (by decide) (by decide) no_bar), padded.trim_eq, listed.commaList_eq,
      String.ofList_toList]
  | select listed =>
    show Except.ok (select (Argument.commaList (Text.trim cs))) = _
    rw [Argument.commaList_trim, listed.commaList_eq]
  | order spaced =>
    show parseSort ((Text.words (Text.trim cs)).map String.ofList) = _
    simp only [args_of_spaced spaced, List.map_cons, List.map_nil, String.ofList_toList, parseSort]
  | directed spaced named =>
    show parseSort ((Text.words (Text.trim cs)).map String.ofList) = _
    simp only [args_of_spaced spaced, List.map_cons, List.map_nil, String.ofList_toList, parseSort,
      ofText_direction named]
  | limit spaced decimal fits =>
    show parseLimit ((Text.words (Text.trim cs)).map String.ofList) = _
    simp only [args_of_spaced spaced, List.map_cons, List.map_nil, parseLimit, parseCount_of_isDecimal decimal,
      if_pos fits]
    rfl
  | window spaced decimal fits decimal' fits' =>
    show parseLimit ((Text.words (Text.trim cs)).map String.ofList) = _
    simp only [args_of_spaced spaced, List.map_cons, List.map_nil, parseLimit, parseCount_of_isDecimal decimal,
      parseCount_of_isDecimal decimal', if_pos fits, if_pos fits']
    rfl
  | join spaced =>
    show parseJoin ((Text.words (Text.trim cs)).map String.ofList) = _
    simp only [args_of_spaced spaced, List.map_cons, List.map_nil, String.ofList_toList, parseJoin]
  | joinOf spaced named =>
    show parseJoin ((Text.words (Text.trim cs)).map String.ofList) = _
    simp only [args_of_spaced spaced, List.map_cons, List.map_nil, String.ofList_toList, parseJoin, ofText_kind named]
  | joinAs spaced named =>
    show parseJoin ((Text.words (Text.trim cs)).map String.ofList) = _
    simp only [args_of_spaced spaced, List.map_cons, List.map_nil, String.ofList_toList, parseJoin, ofText_kind named]
  | group spaced =>
    show parseGroup ((Text.words (Text.trim cs)).map String.ofList) = _
    simp only [args_of_spaced spaced, List.map_cons, List.map_nil, String.ofList_toList, parseGroup]
  | @aggregate fields _ ne_nil spaced no_colon =>
    show parseAggregate ((Text.words (Text.trim cs)).map String.ofList) = _
    rw [args_of_spaced spaced, parseAggregate, fields_fieldText spaced.isWord_of_mem no_colon]
    · rfl
    · simpa using ne_nil
  | page spaced decimal fits decimal' fits' =>
    show parsePage ((Text.words (Text.trim cs)).map String.ofList) = _
    simp only [args_of_spaced spaced, List.map_cons, List.map_nil, parsePage, parseCount_of_isDecimal decimal,
      parseCount_of_isDecimal decimal', if_pos fits, if_pos fits']
    rfl
  | exportCsv spaced =>
    show parseExport ((Text.words (Text.trim cs)).map String.ofList) = _
    simp only [args_of_spaced spaced, List.map_cons, List.map_nil, String.ofList_toList, parseExport]
  | plain mem _ => exact ofWord_plain mem _

/-! ## Reading a line -/

/-- All command words. -/
def keywords : List String :=
  ["WHERE", "SELECT", "ORDER", "LIMIT", "JOIN", "GROUP", "AGG", "PAGE", "CSV"] ++ plain.map (·.1)

theorem mem_keywords_of_spells {keyword : String} {cs : List Char} {command : Command} (h : Spells keyword cs command) :
    keyword ∈ keywords := by
  cases h with
  | plain mem _ => exact List.mem_append_right _ (List.mem_map_of_mem mem)
  | _ => exact List.mem_append_left _ (by decide)

theorem parse_of_isLine {keyword line : String} {text : List Char} (hkeyword : keyword ∈ keywords)
    (h : IsLine keyword text line.toList) : parse line = ofWord (lowered keyword) (Text.trim text) := by
  have hletters : ∀ word ∈ keywords, word.toList ≠ [] ∧ word.toList.all Char.isAlpha = true := by decide
  obtain ⟨hne, halpha⟩ := hletters keyword hkeyword
  rw [List.all_eq_true] at halpha
  generalize hline : line.toList = cs at h
  obtain ⟨lead, word, lead_blank, named, apart⟩ := h
  have hword : Text.IsWord word :=
    ⟨?_, fun c hc => Text.isBlank_of_isAlpha (isAlpha_of_isKeyword halpha named c hc)⟩
  · rw [parse_of_word lead_blank hword apart hline, Text.lowercase_of_isKeyword halpha named, lowered]
  · rintro rfl
    rw [Text.isKeyword, beq_iff_eq] at named
    exact hne named.symm

theorem parse_of_isSpelled {command : Command} {line : String} (h : command.IsSpelled line) :
    parse line = .ok command := by
  obtain ⟨keyword, text, hline, hspells⟩ := h
  rw [parse_of_isLine (mem_keywords_of_spells hspells) hline, ofWord_of_spells hspells]

/-! ## Commands that can be written -/

/-- The parts of the command can be told apart on a line. -/
def Expressible : Command → Prop
  | filter condition params =>
    Text.trim condition.toList = condition.toList ∧
      (params = [] ∧ '|' ∉ condition.toList ∨
        ∃ texts : List String, texts ≠ [] ∧ params = texts.map .ofUntyped ∧
          ∀ text ∈ texts, Text.trim text.toList = text.toList ∧ ',' ∉ text.toList ∧ '|' ∉ text.toList)
  | select columns =>
    columns ≠ [] ∧ ∀ column ∈ columns, Text.trim column.toList = column.toList ∧ ',' ∉ column.toList
  | sort column _ => Text.IsWord column.toList
  | limit number offset => number < 2 ^ 64 ∧ offset < 2 ^ 64
  | join path localKey operator foreignKey _ alias? =>
    (∀ text ∈ [path, localKey, operator, foreignKey], Text.IsWord text.toList) ∧
      ∀ name ∈ alias?, Text.IsWord name.toList
  | group column => Text.IsWord column.toList
  | aggregate fields =>
    fields ≠ [] ∧ ∀ field ∈ fields, ':' ∉ field.1.toList ∧
      (∀ c ∈ field.1.toList, Text.isBlank c = false) ∧ ∀ c ∈ field.2.toList, Text.isBlank c = false
  | page number perPage => number < 2 ^ 64 ∧ perPage < 2 ^ 64
  | exportCsv path => Text.IsWord path.toList
  | json | table | count | reset | help | exit => True

theorem isSpelled_of_spells {keyword : String} {cs : List Char} {command : Command} (h : Spells keyword cs command)
    (apart : ∀ c ∈ cs.head?, Text.isBlank c = true) : ∃ line, command.IsSpelled line := by
  have hself : ∀ word ∈ keywords, Text.isKeyword word word.toList = true := by decide
  refine ⟨String.ofList (keyword.toList ++ cs), keyword, cs, ?_, h⟩
  rw [String.toList_ofList]
  exact .intro [] _ (by simp) (hself keyword (mem_keywords_of_spells h)) apart

theorem isSpelled_of_spaced {keyword : String} {texts : List (List Char)} {command : Command}
    (hwords : ∀ text ∈ texts, Text.IsWord text) (h : ∀ cs, Text.Spaced texts cs → Spells keyword cs command) :
    ∃ line, command.IsSpelled line :=
  have spaced := Text.Spaced.of_isWord hwords
  isSpelled_of_spells (h _ spaced) spaced.head

theorem isSpelled_of_plain {keyword : String} {command : Command} (h : (keyword, command) ∈ plain) :
    ∃ line, command.IsSpelled line :=
  isSpelled_of_spaced (List.forall_mem_nil _) fun _ spaced => .plain h spaced

theorem exists_line {command : Command} (h : command.Expressible) : ∃ line, command.IsSpelled line := by
  cases command with
  | filter condition params =>
    obtain ⟨htrim, ⟨rfl, hbar⟩ | ⟨texts, hne, rfl, htexts⟩⟩ := h
    · exact isSpelled_of_spells (.condition (.of_space htrim) hbar) (Text.isBlank_head_space _)
    · obtain ⟨cs, hcs⟩ := Argument.exists_listed hne
        fun text htext => ⟨(htexts text htext).1, (htexts text htext).2.1⟩
      refine isSpelled_of_spells (.bound (.of_space htrim) hcs fun text htext => (htexts text htext).2.2) ?_
      exact Text.isBlank_head_space _
  | select columns =>
    obtain ⟨cs, hcs⟩ := Argument.exists_listed h.1 h.2
    exact isSpelled_of_spells (.select hcs) (Text.isBlank_head_space cs)
  | sort column direction =>
    have hdirection : Text.isKeyword direction.keyword direction.keyword.toList = true := by
      cases direction <;> decide
    have hword : Text.IsWord direction.keyword.toList := by
      cases direction <;> exact .of_isAlpha (by decide) (by decide)
    exact isSpelled_of_spaced (by simpa using ⟨h, hword⟩) fun cs spaced => .directed spaced hdirection
  | limit number offset =>
    have hnumber := Argument.isDecimal_digitsOf number
    have hoffset := Argument.isDecimal_digitsOf offset
    exact isSpelled_of_spaced (by simpa using ⟨hnumber.isWord, hoffset.isWord⟩) fun cs spaced =>
      .window spaced hnumber h.1 hoffset h.2
  | join path localKey operator foreignKey kind alias? =>
    obtain ⟨hwords, halias⟩ := h
    have hkind : Text.isKeyword kind.keyword kind.keyword.toList = true := by cases kind <;> decide
    have hword : Text.IsWord kind.keyword.toList := by
      cases kind <;> exact .of_isAlpha (by decide) (by decide)
    simp only [List.forall_mem_cons] at hwords
    cases alias? with
    | none => exact isSpelled_of_spaced (by simpa [hword] using hwords) fun cs spaced => .joinOf spaced hkind
    | some name =>
      have hname := halias name rfl
      exact isSpelled_of_spaced (by simpa [hword, hname] using hwords) fun cs spaced => .joinAs spaced hkind
  | group column => exact isSpelled_of_spaced (by simpa [Expressible] using h) fun cs spaced => .group spaced
  | aggregate fields =>
    obtain ⟨hne, hfields⟩ := h
    have hwords : ∀ text ∈ fields.map fieldText, Text.IsWord text := by
      intro text htext
      obtain ⟨field, hfield, rfl⟩ := List.mem_map.1 htext
      obtain ⟨-, hcolumn, hfunction⟩ := hfields field hfield
      refine ⟨by simp [fieldText], fun c hc => ?_⟩
      rcases List.mem_append.1 hc with hc | hc
      · exact hcolumn c hc
      · rcases List.mem_cons.1 hc with rfl | hc
        · decide
        · exact hfunction c hc
    exact isSpelled_of_spaced hwords fun cs spaced => .aggregate hne spaced fun field hfield => (hfields field hfield).1
  | page number perPage =>
    have hnumber := Argument.isDecimal_digitsOf number
    have hperPage := Argument.isDecimal_digitsOf perPage
    exact isSpelled_of_spaced (by simpa using ⟨hnumber.isWord, hperPage.isWord⟩) fun cs spaced =>
      .page spaced hnumber h.1 hperPage h.2
  | exportCsv path => exact isSpelled_of_spaced (by simpa [Expressible] using h) fun cs spaced => .exportCsv spaced
  | json => exact isSpelled_of_plain (show ("JSON", json) ∈ plain by simp [plain])
  | table => exact isSpelled_of_plain (show ("SHOW", table) ∈ plain by simp [plain])
  | count => exact isSpelled_of_plain (show ("COUNT", count) ∈ plain by simp [plain])
  | reset => exact isSpelled_of_plain (show ("RESET", reset) ∈ plain by simp [plain])
  | help => exact isSpelled_of_plain (show ("HELP", help) ∈ plain by simp [plain])
  | exit => exact isSpelled_of_plain (show ("EXIT", exit) ∈ plain by simp [plain])

/-! ## Numbers that are too large -/

theorem parseCount_of_le {digits : List Char} {n : Nat} (h : Argument.IsDecimal digits n) (hlarge : 2 ^ 64 ≤ n) :
    parseCount (String.ofList digits) = .error (.count .tooLarge) := by
  rw [parseCount_of_isDecimal h, if_neg (Nat.not_lt.2 hlarge)]

theorem parse_pair_of_le {digits digits' : List Char} {n n' : Nat} (h : Argument.IsDecimal digits n)
    (h' : Argument.IsDecimal digits' n') (hlarge : 2 ^ 64 ≤ n ∨ 2 ^ 64 ≤ n') (make : Nat → Nat → Command) :
    (do return make (← parseCount (String.ofList digits)) (← parseCount (String.ofList digits'))) =
      (.error (.count .tooLarge) : Except ParseError Command) := by
  by_cases hfirst : 2 ^ 64 ≤ n
  · rw [parseCount_of_le h hfirst]
    rfl
  · rw [parseCount_of_isDecimal h, if_pos (Nat.not_le.1 hfirst), parseCount_of_le h' (hlarge.resolve_left hfirst)]
    rfl

/-- If one of the numbers of a line is too large, then reading the line fails with that, wherever the
number stands. -/
theorem parse_of_too_large {keyword line : String} {texts : List (List Char)} {numbers : List Nat} {cs : List Char}
    (hline : IsLine keyword cs line.toList) (hspaced : Text.Spaced texts cs)
    (hkeyword : keyword = "LIMIT" ∧ texts.length ≤ 2 ∨ keyword = "PAGE" ∧ texts.length = 2)
    (hdecimal : List.Forall₂ Argument.IsDecimal texts numbers) (hlarge : ∃ n ∈ numbers, 2 ^ 64 ≤ n) :
    parse line = .error (.count .tooLarge) := by
  rcases hkeyword with ⟨rfl, hlength⟩ | ⟨rfl, hlength⟩
  · rw [parse_of_isLine (by decide) hline]
    show parseLimit ((Text.words (Text.trim cs)).map String.ofList) = _
    rw [args_of_spaced hspaced]
    match hdecimal with
    | .nil => simp at hlarge
    | .cons h .nil =>
      simp only [List.mem_singleton, exists_eq_left] at hlarge
      simp only [List.map_cons, List.map_nil, parseLimit, parseCount_of_le h hlarge]
      rfl
    | .cons h (.cons h' .nil) =>
      simp only [List.mem_cons, List.not_mem_nil, or_false, exists_eq_or_imp, exists_eq_left] at hlarge
      exact parse_pair_of_le h h' hlarge limit
    | .cons _ (.cons _ (.cons _ _)) => simp at hlength
  · rw [parse_of_isLine (by decide) hline]
    show parsePage ((Text.words (Text.trim cs)).map String.ofList) = _
    rw [args_of_spaced hspaced]
    match hdecimal with
    | .nil => simp at hlength
    | .cons _ .nil => simp at hlength
    | .cons h (.cons h' .nil) =>
      simp only [List.mem_cons, List.not_mem_nil, or_false, exists_eq_or_imp, exists_eq_left] at hlarge
      exact parse_pair_of_le h h' hlarge page
    | .cons _ (.cons _ (.cons _ _)) => simp at hlength

end Command

open Command

/-- **Commands are read back from their lines.** Every command whose parts can be told apart has a
line, and a line that is written as a command is read as just that command: in any letter case of
the command word, with any white space around it and between the words behind it, and with the
values of the parameters that their texts spell. A line of `limit` or `page` with a number of more
than 64 bits is an error. -/
theorem spelled_lines_read_back :
    (∀ command : Command, command.Expressible → ∃ line, command.IsSpelled line) ∧
      (∀ (command : Command) (line : String), command.IsSpelled line → parse line = .ok command) ∧
      ∀ (keyword line : String) (cs : List Char) (texts : List (List Char)) (numbers : List Nat),
        IsLine keyword cs line.toList → Text.Spaced texts cs →
        (keyword = "LIMIT" ∧ texts.length ≤ 2 ∨ keyword = "PAGE" ∧ texts.length = 2) →
        List.Forall₂ Argument.IsDecimal texts numbers → (∃ n ∈ numbers, 2 ^ 64 ≤ n) →
        parse line = .error (.count .tooLarge) :=
  ⟨fun _ => exists_line, fun _ _ => parse_of_isSpelled, fun _ _ _ _ _ => parse_of_too_large⟩

/-- A condition with bars of its own, parameters with white space and an empty one; and a second
number that is too large by one. -/
theorem spelled_lines_read_back_of_bars :
    let command : Command := .filter "a|b = ?" [.number (.finite .one), .text "x y", .text ""]
    let line := " \twHeRe a|b = ? |1.0, x y ,\u3000"
    command.IsSpelled line ∧ parse line = .ok command ∧
      IsLine "LIMIT" " 03 18446744073709551616".toList "liMit 03 18446744073709551616".toList ∧
      parse "liMit 03 18446744073709551616" = .error (.count .tooLarge) := by
  intro command line
  obtain ⟨-, hread, hlarge⟩ := spelled_lines_read_back
  have hspace := Text.isBlank_of_mem_space
  have hspelled : command.IsSpelled line := by
    have hparams : command = .filter "a|b = ?" (["1.0", "x y", ""].map .ofUntyped) := by decide +kernel
    have hcondition : Text.Padded "a|b = ?" " a|b = ? ".toList := .intro [' '] [' '] hspace hspace (by decide +kernel)
    have hfirst : Text.Padded "1.0" "1.0".toList := .intro [] [] (by simp) (by simp) (by decide +kernel)
    have hmiddle : Text.Padded "x y" " x y ".toList := .intro [' '] [' '] hspace hspace (by decide +kernel)
    have hlast : Text.Padded "" "\u3000".toList := .intro [] ['\u3000'] (by simp) (List.all_eq_true.1 (by decide)) rfl
    refine ⟨"WHERE", " a|b = ? |1.0, x y ,\u3000".toList, ?_, ?_⟩
    · have hline : line.toList = [' ', '\t'] ++ ("wHeRe".toList ++ " a|b = ? |1.0, x y ,\u3000".toList) := by
        decide +kernel
      rw [hline]
      exact .intro _ _ (List.all_eq_true.1 (by decide)) (by decide) (Text.isBlank_head_space _)
    · rw [hparams]
      exact .bound hcondition (.cons hfirst (by decide) (.cons hmiddle (by decide) (.single hlast (by decide))))
        (by simp)
  have hline : IsLine "LIMIT" " 03 18446744073709551616".toList "liMit 03 18446744073709551616".toList :=
    .intro [] "liMit".toList (by simp) (by decide) (Text.isBlank_head_space _)
  have hfirst : Argument.IsDecimal "03".toList 3 := ⟨by decide, List.all_eq_true.1 (by decide), by decide⟩
  have hsecond : Argument.IsDecimal "18446744073709551616".toList (2 ^ 64) :=
    ⟨by decide, List.all_eq_true.1 (by decide), by decide⟩
  have hspaced : Text.Spaced ["03".toList, "18446744073709551616".toList] " 03 18446744073709551616".toList :=
    .cons [' '] (by simp) hspace hfirst.isWord
      (.cons [' '] (by simp) hspace hsecond.isWord (.nil (List.forall_mem_nil _)))
  refine ⟨hspelled, hread _ _ hspelled, hline, ?_⟩
  exact hlarge "LIMIT" _ _ _ [3, 2 ^ 64] hline hspaced (.inl ⟨rfl, by simp⟩) (.cons hfirst (.cons hsecond .nil))
    ⟨2 ^ 64, by simp, Nat.le_refl _⟩

end Shell

end RowQuery
