import RowQuery.Double.Arithmetic
import RowQuery.Double.Plain
import RowQuery.Json.Basic
import RowQuery.Numeral
import RowQuery.Text.Scan
/-!
# JSON numerals

Reading: digits are gathered into a significand as long as it stays below `2 ^ 64`,
and the significand is then scaled by a power of ten. The significand, the power and
the scaling are each rounded, so a long numeral can come out one step off the nearest
double. A numeral beyond the range of doubles has no value.

Writing: integers by their digits; doubles by their shortest decimal, of two equally
near ones the even one, written out from `10 ^ (-5)` to below `10 ^ 16` and otherwise
with one digit before the point and an exponent that always has a sign.
-/

namespace RowQuery.Json

/-- The parts of a JSON numeral. -/
structure Numeral where
  negative : Bool
  whole : List Char
  fraction? : Option (List Char)
  exponent? : Option Int

namespace Numeral

/-- The digits in front, at least one. -/
def takeDigits? (cs : List Char) : Option (List Char × List Char) :=
  let digits := cs.takeWhile Char.isDigit
  if digits = [] then none else some (digits, cs.dropWhile Char.isDigit)

/-- The digits in front, where a zero can only stand alone. -/
def takeWhole? (cs : List Char) : Option (List Char × List Char) :=
  match takeDigits? cs with
  | some ('0' :: _ :: _, _) => none
  | result => result

/-- A fraction, if a point is in front. -/
def takeFraction? : List Char → Option (Option (List Char) × List Char)
  | '.' :: cs => (takeDigits? cs).map fun (digits, cs) => (some digits, cs)
  | cs => some (none, cs)

/-- An exponent, if its mark is in front. -/
def takeExponent? : List Char → Option (Option Int × List Char)
  | [] => some (none, [])
  | mark :: cs =>
    if mark = 'e' ∨ mark = 'E' then
      let (negative, body) := RowQuery.Numeral.splitSign cs
      (takeDigits? body).map fun (digits, rest) =>
        let n : Int := RowQuery.Numeral.natural digits
        (some (if negative then -n else n), rest)
    else some (none, mark :: cs)

/-- The longest numeral in front of a text, and what follows it. -/
def take? (cs : List Char) : Option (Numeral × List Char) := do
  let (negative, cs) := match cs with
    | '-' :: cs => (true, cs)
    | cs => (false, cs)
  let (whole, cs) ← takeWhole? cs
  let (fraction?, cs) ← takeFraction? cs
  let (exponent?, cs) ← takeExponent? cs
  return ({ negative, whole, fraction?, exponent? }, cs)

theorem length_lt_of_takeDigits? {cs digits rest : List Char}
    (h : takeDigits? cs = some (digits, rest)) : rest.length < cs.length := by
  simp only [takeDigits?] at h
  split at h
  · simp at h
  next hd =>
    obtain ⟨_, rfl⟩ := Prod.mk.inj (Option.some.inj h)
    exact length_dropWhile_lt hd

theorem length_lt_of_takeWhole? {cs digits rest : List Char}
    (h : takeWhole? cs = some (digits, rest)) : rest.length < cs.length := by
  unfold takeWhole? at h
  split at h
  · simp at h
  · exact length_lt_of_takeDigits? h

theorem length_le_of_takeFraction? {cs rest : List Char} {fraction? : Option (List Char)}
    (h : takeFraction? cs = some (fraction?, rest)) : rest.length ≤ cs.length := by
  unfold takeFraction? at h
  split at h
  · obtain ⟨⟨digits, tail⟩, hd, h⟩ := Option.map_eq_some_iff.1 h
    obtain ⟨_, rfl⟩ := Prod.mk.inj h
    have := length_lt_of_takeDigits? hd
    simp only [List.length_cons]
    omega
  · obtain ⟨_, rfl⟩ := Prod.mk.inj (Option.some.inj h)
    exact Nat.le_refl _

theorem length_splitSign_le (cs : List Char) :
    (RowQuery.Numeral.splitSign cs).2.length ≤ cs.length := by
  unfold RowQuery.Numeral.splitSign
  split <;> simp

theorem length_le_of_takeExponent? {cs rest : List Char} {exponent? : Option Int}
    (h : takeExponent? cs = some (exponent?, rest)) : rest.length ≤ cs.length := by
  unfold takeExponent? at h
  split at h
  · obtain ⟨_, rfl⟩ := Prod.mk.inj (Option.some.inj h)
    exact Nat.le_refl _
  next mark tail =>
    split at h
    · obtain ⟨⟨digits, tail'⟩, hd, h⟩ := Option.map_eq_some_iff.1 h
      obtain ⟨_, rfl⟩ := Prod.mk.inj h
      have h1 := length_lt_of_takeDigits? hd
      have h2 := length_splitSign_le tail
      exact Nat.le_succ_of_le (Nat.le_of_lt (Nat.lt_of_lt_of_le h1 h2))
    · obtain ⟨_, rfl⟩ := Prod.mk.inj (Option.some.inj h)
      exact Nat.le_refl _

theorem length_lt_of_take? {cs rest : List Char} {n : Numeral} (h : take? cs = some (n, rest)) :
    rest.length < cs.length := by
  simp only [take?, Option.bind_eq_bind, Option.bind_eq_some_iff] at h
  obtain ⟨⟨whole, a⟩, ha, ⟨fraction?, b⟩, hb, ⟨exponent?, c⟩, hc, h⟩ := h
  obtain ⟨_, rfl⟩ := Prod.mk.inj (Option.some.inj h)
  have ha := length_lt_of_takeWhole? ha
  have hb := length_le_of_takeFraction? hb
  have hc := length_le_of_takeExponent? hc
  simp only at ha hb hc
  split at ha
  · simp only [List.length_cons] at *
    omega
  · simp only at *
    omega

/-- Appends digits to a significand as long as it stays below `2 ^ 64`, and gives back
the digits that are left. -/
def gather (significand : Nat) : List Char → Nat × List Char
  | [] => (significand, [])
  | c :: cs =>
    let longer := significand * 10 + (c.toNat - '0'.toNat)
    if longer < 2 ^ 64 then gather longer cs else (significand, c :: cs)

def powerOfTen (n : Nat) : Double := .ofNat (10 ^ n)

/-- Scales by `10 ^ exponent`, with powers up to the largest that is a double. What would
become infinite has no value. -/
def scale? (x : Double) (exponent : Int) : Option FiniteDouble :=
  if 308 < exponent then if x.equal .zero then x.finite? else none
  else if 0 ≤ exponent then (x * powerOfTen exponent.toNat).finite?
  else if -308 ≤ exponent then (x / powerOfTen (-exponent).toNat).finite?
  else if x.equal .zero then x.finite?
  else scale? (x / powerOfTen 308) (exponent + 308)
termination_by (-exponent).toNat

/-- The largest exponent that is read as it stands. -/
abbrev exponentLimit : Nat := 2 ^ 31 - 1

/-- The double `significand * 10 ^ (shift + exponent)`, where `shift` comes from the place
of the point. Beyond the limit of exponents only zero is left. -/
def double? (negative : Bool) (significand : Nat) (shift exponent : Int) : Option FiniteDouble :=
  let size? :=
    if exponent.natAbs ≤ exponentLimit then scale? (.ofNat significand) (shift + exponent)
    else if 0 < exponent ∧ significand ≠ 0 then none
    else some .zero
  size?.map fun x => { x with negative }

/-- The integer of a sign and digits. A negative one has 63 bits, and there is no
negative zero; what is left becomes a double. -/
def integer? (negative : Bool) (n : Nat) : Option Number :=
  if !negative then some (.integer n)
  else if 0 < n ∧ n ≤ 2 ^ 63 then some (.integer (-(n : Int)))
  else (double? negative n 0 0).map .double

/-- The number a numeral stands for. -/
def number? (l : Numeral) : Option Number :=
  let (significand, unread) := gather 0 l.whole
  match l.fraction?, l.exponent? with
  | none, none =>
    if unread = [] then integer? l.negative significand
    else (double? l.negative significand unread.length 0).map .double
  | fraction?, exponent? =>
    let fraction := fraction?.getD []
    let (significand, rest) := gather significand fraction
    let shift : Int := unread.length - (fraction.length - rest.length : Nat)
    (double? l.negative significand shift (exponent?.getD 0)).map .double

end Numeral

/-! ## Writing -/

/-- The decimal with at least one digit behind the point. -/
def withFraction (d : Decimal) : List Char :=
  if 0 ≤ d.exponent then d.plain ++ ['.', '0'] else d.plain

/-- One digit, a point if more follow, and the power of ten. -/
def scientific (d : Decimal) : List Char :=
  let power := d.pointPosition - 1
  let mantissa := match d.digits with
    | [] => []
    | [digit] => [digit]
    | digit :: digits => digit :: '.' :: digits
  mantissa ++ 'e' :: (if power < 0 then '-' else '+') :: digitsOf power.natAbs

/-- The text of a double. -/
def doubleText (x : FiniteDouble) : List Char :=
  let d := x.shortest .even
  withSign x.negative <|
    if -5 < d.pointPosition ∧ d.pointPosition ≤ 16 then withFraction d else scientific d

def Number.text : Number → List Char
  | integer n => integerText n
  | double x => doubleText x

end RowQuery.Json
