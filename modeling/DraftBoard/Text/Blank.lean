import DraftBoard.Text.CodeRange

/-!
# Blanks

The characters that only keep others apart: spaces of every width, tabs and line ends.
-/

namespace DraftBoard.Text

/-- The ranges of blanks. -/
def blanks : List (Nat × Nat) :=
  [(0x09, 0x0D), (0x20, 0x20), (0x85, 0x85), (0xA0, 0xA0), (0x1680, 0x1680),
    (0x2000, 0x200A), (0x2028, 0x2029), (0x202F, 0x202F), (0x205F, 0x205F),
    (0x3000, 0x3000)]

/-- Whether a character is a blank. -/
def isBlank (c : Char) : Bool := inRanges blanks c.toNat

end DraftBoard.Text
