import RecordEngine.Text.Hidden
/-!
Blanks of a written text: spaces of every width, line ends, and the marks that give a direction to
the text around them.
-/

set_option autoImplicit false

namespace RecordEngine

namespace Text

/-- The blanks. Ranges, ascending, ends included. -/
def blankRanges : List (Nat × Nat) :=
  [(0x9, 0xd), (0x20, 0x20), (0x85, 0x85), (0xa0, 0xa0), (0x1680, 0x1680), (0x2000, 0x200a),
   (0x200e, 0x200f), (0x2028, 0x2029), (0x202f, 0x202f), (0x205f, 0x205f), (0x3000, 0x3000)]

def isBlank (c : Char) : Bool := inRanges blankRanges c.toNat

end Text

end RecordEngine
