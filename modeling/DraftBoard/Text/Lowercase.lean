import DraftBoard.Text.CaseTable
import DraftBoard.Text.Marks

/-!
# Lower case

`lowercase` is full Unicode lower-casing: one character may become two, and a
capital sigma takes its final shape at the end of a word.
-/

namespace DraftBoard.Text

/-- The lower case of a character on its own. -/
def lowerChar (c : Char) : List Char :=
  if c.toNat < 128 then [c.toLower]
  else if c.toNat = 0x130 then ['i', Char.ofNat 0x307]
  else
    match caseRuns.find? (·.contains c.toNat) with
    | some run => [Char.ofNat (c.toNat + run.offset).toNat]
    | none => [c]

/-- Whether a character is looked through in search of a letter that has a case. -/
def isCaseIgnorable (c : Char) : Bool :=
  inRanges caseIgnorableRanges c.toNat || isNonspacing c.toNat

/-- Whether the first character that is not looked through has a case. -/
def meetsCased (neighbours : List Char) : Bool :=
  match neighbours.dropWhile isCaseIgnorable with
  | c :: _ => inRanges casedRanges c.toNat
  | [] => false

/-- The lower case of a capital sigma, given what stands before it (nearest
first) and after it. -/
def lowerSigma (before after : List Char) : Char :=
  if meetsCased before && !meetsCased after then 'ς' else 'σ'

/-- Lower-casing of the rest of a text; `before` holds what has been passed,
nearest first. -/
def lowercaseAfter (before : List Char) : List Char → List Char
  | [] => []
  | c :: rest =>
      (if c = 'Σ' then [lowerSigma before rest] else lowerChar c) ++
        lowercaseAfter (c :: before) rest

/-- Full lower-casing of a character sequence. -/
def lowercaseChars (text : List Char) : List Char :=
  lowercaseAfter [] text

/-- Full lower-casing of a text. -/
def lowercase (text : String) : String :=
  String.ofList (lowercaseChars text.toList)

end DraftBoard.Text
