import DraftBoard.Text.Compose
import DraftBoard.Text.Direction
import DraftBoard.Text.Hex
import DraftBoard.Text.Joining
import DraftBoard.Text.Lowercase
import DraftBoard.Text.Split
import DraftBoard.Text.Unassigned
import DraftBoard.Url.FoldTable
import DraftBoard.Url.Punycode

/-!
# Names of hosts

A name is folded to one spelling and cut into labels at its dots.  A label may be written
in ASCII letters behind `xn--`; it has to stand for something that is folded already.  Every
label has to hold together: marks follow letters, joiners stand between letters that join,
and directions do not mix.  `asciiName?` gives the name with all labels in ASCII letters.
-/

namespace DraftBoard.Url

open Text

/-- The folded forms that a row lists. -/
def FoldRow.entries (row : FoldRow) : List (Nat × List Char) :=
  let forms := (splitAtMark ' ' row.forms.toList).mapIdx fun index form =>
    ((splitAtMark '+' form).mapM (numeral? 16)).map fun codes =>
      (row.first + index, codes.map Char.ofNat)
  forms.reduceOption

/-- The folded forms of characters whose form is not just their lower case. -/
def foldTable : List (Nat × List Char) :=
  foldRows.flatMap FoldRow.entries

/-- Whether a character is a capital of the one script whose names keep them. -/
def keepsCapital (c : Char) : Bool :=
  0x13a0 ≤ c.toNat && c.toNat ≤ 0x13f5

/-- The folded form of a character; `none` if no name may hold it. -/
def fold (c : Char) : Option (List Char) :=
  if c.toNat < 0x80 then some [c.toLower]
  else if inRanges ignoredRanges c.toNat then some []
  else if isUnassigned c.toNat || inRanges refusedRanges c.toNat then none
  else
    match foldTable.lookup c.toNat with
    | some form => some form
    | none => if keepsCapital c then some [c] else some (lowerChar c)

/-- Whether a character belongs to ASCII. -/
def isAscii (c : Char) : Bool := c.toNat < 0x80

/-- The longest text behind `xn--` that is read. -/
def encodedLimit : Nat := 2000

/-- The longest label outside ASCII. -/
def labelLimit : Nat := 1000

/-- What a label stands for: one behind `xn--` for a folded label outside ASCII, any other
one for itself. -/
def decodedLabel? (label : List Char) : Option (List Char) :=
  if "xn--".toList.isPrefixOf label then
    let encoded := label.drop 4
    if label.getLast? = some '-' ∨ encodedLimit < encoded.length ∨ !encoded.all isAscii then none
    else do
      let decoded ← decodeLabel? encoded
      if decoded.all (fun c => fold c == some [c]) && compose decoded == decoded then some decoded
      else none
  else some label

/-- ASCII characters that no name may hold. -/
def forbiddenInName (c : Char) : Bool :=
  c.toNat ≤ 0x20 || c.toNat == 0x7f || "#%/:<>?@[\\]^|".toList.contains c

/-- The place of marks that take the vowel from a letter. -/
def viramaPlace : Nat := 9

/-- Whether the first character that is not transparent satisfies a test. -/
def meets (test : Char → Bool) (neighbours : List Char) : Bool :=
  (neighbours.dropWhile isTransparent).head?.any test

/-- Whether a joiner may stand between what is before it, nearest first, and after it:
behind a mark that takes the vowel from a letter, and one that parts letters also between
letters that join. -/
def joinerFits (before : List Char) (joiner : Char) (after : List Char) : Bool :=
  match before with
  | [] => false
  | last :: _ =>
      place last == viramaPlace ||
        joiner == '\u200c' && meets joinsNext before && meets joinsPrevious after

/-- Whether the joiners of a label stand where they may; `before` holds what has been
passed, nearest first. -/
def joinersFit (before : List Char) : List Char → Bool
  | [] => true
  | c :: rest =>
      (c != '\u200c' && c != '\u200d' || joinerFits before c rest) && joinersFit (c :: before) rest

/-- Whether a label holds together. -/
def isLabel (label : List Char) : Bool :=
  !(label.head?.any fun c => isMark c.toNat) && !label.any forbiddenInName &&
    joinersFit [] label && (label.all isAscii || label.length ≤ labelLimit)

/-- Whether a character makes a name run to the left. -/
def turns (c : Char) : Bool :=
  0x590 ≤ c.toNat && (direction c == .rightToLeft || direction c == .arabicNumber)

/-- Whether the directions of a label fit together: it starts with a letter, holds nothing
that runs against it, and ends in a letter or a number, marks apart. -/
def directionsFit (label : List Char) : Bool :=
  let kinds := label.map direction
  let last := (kinds.reverse.dropWhile (· == .mark)).head?
  match kinds with
  | [] => true
  | .leftToRight :: _ =>
      kinds.all (fun kind => kind != .rightToLeft && kind != .arabicNumber) &&
        (last == some .leftToRight || last == some .europeanNumber)
  | .rightToLeft :: _ =>
      kinds.all (· != .leftToRight) && last != some .neutral &&
        !(kinds.contains .arabicNumber && kinds.contains .europeanNumber)
  | _ => false

/-- A label in ASCII letters. -/
def asciiLabel (label : List Char) : List Char :=
  if label.all isAscii then label else "xn--".toList ++ encodeLabel label

/-- A name with all labels in ASCII letters, if it can be a name. -/
def asciiName? (name : List Char) : Option (List Char) := do
  let folded ← name.mapM fold
  let labels ← (splitAtMark '.' (compose folded.flatten)).mapM decodedLabel?
  let leftward := labels.any fun label => label.any turns
  if labels.all isLabel && (!leftward || labels.all directionsFit) then
    some (['.'].intercalate (labels.map asciiLabel))
  else none

end DraftBoard.Url
