import RowQuery.Text.Printable
/-!
# Quoted text in messages

A text quoted inside a message stands between double quotes, with escapes that
leave no character in it unseen.
-/

namespace RowQuery.Text

/-- Hexadecimal digits, in lower case and without leading zeros. -/
def hexDigits (n : Nat) : List Char := Nat.toDigits 16 n

/-- A character by its code point, between braces. -/
def codePointEscape (c : Char) : List Char :=
  ['\\', 'u', '\x7b'] ++ hexDigits c.toNat ++ ['\x7d']

def quotedChar (c : Char) : List Char :=
  match c with
  | '\x00' => ['\\', '0']
  | '\t' => ['\\', 't']
  | '\r' => ['\\', 'r']
  | '\n' => ['\\', 'n']
  | '"' => ['\\', '"']
  | '\\' => ['\\', '\\']
  | c => if isShown c then [c] else codePointEscape c

def quoted (cs : List Char) : List Char := '"' :: cs.flatMap quotedChar ++ ['"']

end RowQuery.Text
