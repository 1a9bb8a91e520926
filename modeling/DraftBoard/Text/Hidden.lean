import DraftBoard.Text.Marks
import DraftBoard.Text.Unassigned

/-!
# Characters without a mark of their own

A quoted text shows some characters by number: control, format, separator (the blank
apart), private, unassigned and filling ones, and marks that extend the character before
them.
-/

namespace DraftBoard.Text

/-- Code points outside ASCII that a quoted text does not show as they are, besides
unassigned ones and those of nonspacing marks. -/
def hiddenRanges : List (Nat × Nat) := [
  (0x80, 0xa0), (0xad, 0xad), (0x600, 0x605), (0x61c, 0x61c), (0x6dd, 0x6dd), (0x70f, 0x70f),
  (0x890, 0x891), (0x8e2, 0x8e2), (0x9be, 0x9be), (0x9d7, 0x9d7), (0xb3e, 0xb3e), (0xb57, 0xb57),
  (0xbbe, 0xbbe), (0xbd7, 0xbd7), (0xcc0, 0xcc0), (0xcc2, 0xcc2), (0xcc7, 0xcc8), (0xcca, 0xccb),
  (0xcd5, 0xcd6), (0xd3e, 0xd3e), (0xd57, 0xd57), (0xdcf, 0xdcf), (0xddf, 0xddf),
  (0x115f, 0x1160), (0x1680, 0x1680), (0x1715, 0x1715), (0x1734, 0x1734), (0x180e, 0x180e),
  (0x1b35, 0x1b35), (0x1b3b, 0x1b3b), (0x1b3d, 0x1b3d), (0x1b43, 0x1b44), (0x1baa, 0x1baa),
  (0x1bf2, 0x1bf3), (0x2000, 0x200f), (0x2028, 0x202f), (0x205f, 0x2064), (0x2066, 0x206f),
  (0x3000, 0x3000), (0x302e, 0x302f), (0x3164, 0x3164), (0xa953, 0xa953), (0xa9c0, 0xa9c0),
  (0xe000, 0xf8ff), (0xfeff, 0xfeff), (0xffa0, 0xffa0), (0xfff9, 0xfffb), (0x110bd, 0x110bd),
  (0x110cd, 0x110cd), (0x111c0, 0x111c0), (0x11235, 0x11235), (0x1133e, 0x1133e),
  (0x1134d, 0x1134d), (0x11357, 0x11357), (0x113b8, 0x113b8), (0x113c2, 0x113c2),
  (0x113c5, 0x113c5), (0x113c7, 0x113c9), (0x113cf, 0x113cf), (0x114b0, 0x114b0),
  (0x114bd, 0x114bd), (0x115af, 0x115af), (0x116b6, 0x116b6), (0x11930, 0x11930),
  (0x1193d, 0x1193d), (0x11f41, 0x11f41), (0x13430, 0x1343f), (0x16ff0, 0x16ff1),
  (0x1bca0, 0x1bca3), (0x1d165, 0x1d166), (0x1d16d, 0x1d17a), (0xe0001, 0xe0001),
  (0xe0020, 0xe007f), (0xf0000, 0xffffd), (0x100000, 0x10fffd)]

/-- Whether a quoted text shows a character by number. -/
def isHidden (c : Char) : Bool :=
  if c.toNat < 0x80 then c.toNat < 0x20 || c.toNat == 0x7f
  else isUnassigned c.toNat || isNonspacing c.toNat || inRanges hiddenRanges c.toNat

end DraftBoard.Text
