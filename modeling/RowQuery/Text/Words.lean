import RowQuery.Text.Blank
/-!
# Words in any letter case

Keywords are ASCII words, and a text is one of them whatever the case of its letters.
-/

namespace RowQuery.Text

/-- The text with its ASCII letters in upper case. -/
def upperAscii (cs : List Char) : List Char := cs.map Char.toUpper

/-- The text is the upper case `keyword`, except for the case of ASCII letters. -/
def isKeyword (keyword : String) (cs : List Char) : Bool := upperAscii cs == keyword.toList

theorem isKeyword_iff {keyword : String} {cs : List Char} :
    isKeyword keyword cs = true ↔ cs.map Char.toUpper = keyword.toList := beq_iff_eq

end RowQuery.Text
