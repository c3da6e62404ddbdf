/-!
# JSON strings

A string is written between double quotes. Only the quote, the backslash and the
characters below U+0020 are escaped. When read, a string may hold every escape of the
grammar, and two escapes together can give a character beyond U+FFFF.
-/

namespace RowQuery.Json

/-- The character that an escape of one letter stands for. -/
def ofEscapeLetter? : Char → Option Char
  | '"' => some '"'
  | '\\' => some '\\'
  | '/' => some '/'
  | 'b' => some '\x08'
  | 'f' => some '\x0c'
  | 'n' => some '\n'
  | 'r' => some '\r'
  | 't' => some '\t'
  | _ => none

def hexValue? (c : Char) : Option Nat :=
  if c.isDigit then some (c.toNat - '0'.toNat)
  else if 'a' ≤ c ∧ c ≤ 'f' then some (c.toNat - 'a'.toNat + 10)
  else if 'A' ≤ c ∧ c ≤ 'F' then some (c.toNat - 'A'.toNat + 10)
  else none

/-- Four hexadecimal digits, and what follows them. -/
def takeUnit? : List Char → Option (Nat × List Char)
  | a :: b :: c :: d :: cs => do
    return (((← hexValue? a) * 16 + (← hexValue? b)) * 256 + (← hexValue? c) * 16 + (← hexValue? d), cs)
  | _ => none

/-- The character of one UTF-16 unit, or of a pair of them where the second is escaped too. -/
def takeUnits? (cs : List Char) : Option (Char × List Char) := do
  let (unit, cs) ← takeUnit? cs
  if 0xD800 ≤ unit ∧ unit < 0xDC00 then
    match cs with
    | '\\' :: 'u' :: cs =>
      let (low, cs) ← takeUnit? cs
      if 0xDC00 ≤ low ∧ low < 0xE000 then
        return (Char.ofNat (0x10000 + (unit - 0xD800) * 0x400 + (low - 0xDC00)), cs)
      else none
    | _ => none
  else if 0xDC00 ≤ unit ∧ unit < 0xE000 then none
  else return (Char.ofNat unit, cs)

/-- The character of an escape behind its backslash, and what follows. -/
def takeEscape? : List Char → Option (Char × List Char)
  | [] => none
  | c :: cs => if c = 'u' then takeUnits? cs else (ofEscapeLetter? c).map fun e => (e, cs)

theorem length_lt_of_takeUnit? {cs rest : List Char} {n : Nat} (h : takeUnit? cs = some (n, rest)) :
    rest.length < cs.length := by
  match cs with
  | [] | [_] | [_, _] | [_, _, _] => simp [takeUnit?] at h
  | a :: b :: c :: d :: tail =>
    simp only [takeUnit?, Option.bind_eq_bind, Option.bind_eq_some_iff] at h
    obtain ⟨_, _, _, _, _, _, _, _, h⟩ := h
    obtain ⟨_, rfl⟩ := Prod.mk.inj (Option.some.inj h)
    simp only [List.length_cons]
    omega

theorem length_lt_of_takeEscape? {cs rest : List Char} {e : Char}
    (h : takeEscape? cs = some (e, rest)) : rest.length < cs.length := by
  match cs with
  | [] => simp [takeEscape?] at h
  | c :: cs =>
    simp only [takeEscape?] at h
    split at h
    · simp only [takeUnits?, Option.bind_eq_bind, Option.bind_eq_some_iff] at h
      obtain ⟨⟨unit, tail⟩, htail, h⟩ := h
      have hlen := length_lt_of_takeUnit? htail
      simp only at h
      split at h
      · split at h
        next tail =>
          obtain ⟨⟨low, tail'⟩, htail', h⟩ := Option.bind_eq_some_iff.1 h
          have hlen' := length_lt_of_takeUnit? htail'
          simp only at h
          split at h
          · obtain ⟨_, rfl⟩ := Prod.mk.inj (Option.some.inj h)
            simp only [List.length_cons] at *
            omega
          · simp at h
        · simp at h
      · split at h
        · simp at h
        · obtain ⟨_, rfl⟩ := Prod.mk.inj (Option.some.inj h)
          simp only [List.length_cons]
          omega
    · obtain ⟨_, _, h⟩ := Option.map_eq_some_iff.1 h
      obtain ⟨_, rfl⟩ := Prod.mk.inj h
      simp

/-- Reads a string behind its opening quote: its characters, and what follows the closing quote. -/
def takeString? (cs : List Char) : Option (List Char × List Char) :=
  match cs with
  | [] => none
  | c :: cs =>
    if c = '"' then some ([], cs)
    else if c = '\\' then
      match h : takeEscape? cs with
      | none => none
      | some (e, rest) =>
        have := length_lt_of_takeEscape? h
        (takeString? rest).map fun (text, rest) => (e :: text, rest)
    else if c.toNat < 0x20 then none
    else (takeString? cs).map fun (text, rest) => (c :: text, rest)
termination_by cs.length

theorem length_lt_of_takeString? {cs text rest : List Char}
    (h : takeString? cs = some (text, rest)) : rest.length < cs.length := by
  fun_induction takeString? cs generalizing text rest with
  | case1 => simp at h
  | case2 =>
    obtain ⟨_, rfl⟩ := Prod.mk.inj (Option.some.inj h)
    simp
  | case3 => simp at h
  | case4 _ _ _ _ hlt _ ih =>
    obtain ⟨⟨_, _⟩, hs, h⟩ := Option.map_eq_some_iff.1 h
    obtain ⟨_, rfl⟩ := Prod.mk.inj h
    have := ih hs
    simp only [List.length_cons]
    omega
  | case5 => simp at h
  | case6 _ _ _ _ _ ih =>
    obtain ⟨⟨_, _⟩, hs, h⟩ := Option.map_eq_some_iff.1 h
    obtain ⟨_, rfl⟩ := Prod.mk.inj h
    have := ih hs
    simp only [List.length_cons]
    omega

/-! ## Writing -/

def hexDigit (n : Nat) : Char := Nat.digitChar n

/-- How a character is written inside a string. -/
def escaped (c : Char) : List Char :=
  match c with
  | '"' => ['\\', '"']
  | '\\' => ['\\', '\\']
  | '\x08' => ['\\', 'b']
  | '\x0c' => ['\\', 'f']
  | '\n' => ['\\', 'n']
  | '\r' => ['\\', 'r']
  | '\t' => ['\\', 't']
  | c =>
    if c.toNat < 0x20 then ['\\', 'u', '0', '0', hexDigit (c.toNat / 16), hexDigit (c.toNat % 16)]
    else [c]

def stringText (s : String) : List Char := '"' :: s.toList.flatMap escaped ++ ['"']

end RowQuery.Json
