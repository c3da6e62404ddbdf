/-!
# Printing piece by piece

Text is printed in pieces, each of which may hold a part that the formatter has to widen. It counts
a width in 16 bits, and one that does not fit crashes the program: the pieces in front have been
printed by then, and nothing else is.

Trusted: the formatter is that of the standard library, and what it does with a width is taken from
there.
-/

namespace RowQuery

/-- Why the program crashes. -/
inductive Crash where
  /-- The formatter is asked for a width that it cannot count. -/
  | width
deriving DecidableEq

def Crash.message : Crash → String
  | width => "Formatting argument out of range"

/-- The widest that the formatter can make a text: the largest number of 16 bits. -/
def widthLimit : Nat := 65535

/-- A piece of text, and the width that the formatter is asked for in it. -/
structure Piece where
  width : Nat
  text : String

namespace Piece

/-- A piece without a part to widen. -/
def plain (text : String) : Piece := { width := 0, text }

/-- The formatter can make the piece. -/
def fits (piece : Piece) : Bool := piece.width ≤ widthLimit

end Piece

/-- What was printed, and why the program crashed behind it if it did. -/
structure Printout where
  text : String
  crash? : Option Crash
deriving DecidableEq

/-- Prints pieces one after the other. -/
def Printout.ofPieces : List Piece → Printout
  | [] => { text := "", crash? := none }
  | piece :: pieces =>
    if piece.fits then
      let rest := ofPieces pieces
      { rest with text := piece.text ++ rest.text }
    else { text := "", crash? := some .width }

end RowQuery
